import Mathlib.Data.List.Nodup
import ModuleHost.Config.Resolve

/-!
# The names of a resolved service

* `checkSupplied_ok`, `checkConfigured_ok` — which names are accepted;
* `ServiceDescriptor.nodup_order` — the order of instantiation names no module twice;
* **`ServiceDescriptor.nodup_names`**: so the modules of a resolved service have different names.
-/

namespace ModuleHost

theorem checkSupplied_ok {seen names : List String} :
    checkSupplied seen names = .ok () ↔
      names.Nodup ∧ ∀ name ∈ names, name.isEmpty = false ∧ name ∉ seen := by
  -- each name is compared with those before it, which `seen` collects
  induction names generalizing seen with
  | nil => simp [checkSupplied]
  | cons name names ih =>
    rw [checkSupplied, List.nodup_cons, List.forall_mem_cons]
    by_cases hempty : name.isEmpty
    · simp [hempty]
    by_cases hseen : name ∈ seen
    · simp [hempty, hseen]
    simp only [hempty, List.contains_eq_mem, hseen, decide_false, Bool.false_eq_true, if_false, ih,
      List.mem_cons, not_or]
    constructor
    · rintro ⟨hnodup, hnames⟩
      refine ⟨⟨fun hmem => (hnames name hmem).2.1 rfl, hnodup⟩, ⟨trivial, not_false⟩, ?_⟩
      exact fun other hother => ⟨(hnames other hother).1, (hnames other hother).2.2⟩
    · rintro ⟨⟨hnot, hnodup⟩, -, hnames⟩
      refine ⟨hnodup, fun other hother => ⟨(hnames other hother).1, ?_, (hnames other hother).2⟩⟩
      rintro rfl
      exact hnot hother

theorem checkConfigured_ok {supplied seen names : List String} :
    checkConfigured supplied seen names = .ok () ↔
      names.Nodup ∧ ∀ name ∈ names, name.isEmpty = false ∧ name ∉ seen ∧ name ∈ supplied := by
  induction names generalizing seen with
  | nil => simp [checkConfigured]
  | cons name names ih =>
    rw [checkConfigured, List.nodup_cons, List.forall_mem_cons]
    by_cases hempty : name.isEmpty
    · simp [hempty]
    by_cases hseen : name ∈ seen
    · simp [hempty, hseen]
    by_cases hsupplied : name ∈ supplied
    · simp only [hempty, List.contains_eq_mem, hseen, hsupplied, decide_false, decide_true,
        Bool.false_eq_true, Bool.not_true, if_false, ih, List.mem_cons, not_or]
      constructor
      · rintro ⟨hnodup, hnames⟩
        refine ⟨⟨fun hmem => (hnames name hmem).2.1.1 rfl, hnodup⟩, ⟨trivial, not_false, trivial⟩,
          ?_⟩
        intro other hother
        obtain ⟨h₁, ⟨-, h₂⟩, h₃⟩ := hnames other hother
        exact ⟨h₁, h₂, h₃⟩
      · rintro ⟨⟨hnot, hnodup⟩, -, hnames⟩
        refine ⟨hnodup, fun other hother => ?_⟩
        obtain ⟨h₁, h₂, h₃⟩ := hnames other hother
        refine ⟨h₁, ⟨?_, h₂⟩, h₃⟩
        rintro rfl
        exact hnot hother
    · simp [hempty, hseen, hsupplied]

namespace ServiceDescriptor

/-- The names in order of instantiation: those without an entry, then those of the entries. -/
theorem names_order (modules : ModuleSet) (config : ServiceConfig) :
    (order modules config).map (·.1) =
      (modules.map (·.1)).filter (fun name => !(config.modules.map (·.importName)).contains name) ++
        config.modules.map (·.importName) := by
  simp [order, Function.comp_def]

theorem nodup_order {modules : ModuleSet} {config : ServiceConfig}
    (supplied : (modules.map (·.1)).Nodup)
    (configured : (config.modules.map (·.importName)).Nodup) :
    ((order modules config).map (·.1)).Nodup := by
  rw [names_order]
  refine (supplied.filter _).append configured fun name hname hconfigured => ?_
  have hnot := (List.mem_filter.1 hname).2
  simp [List.contains_eq_mem, hconfigured] at hnot

theorem names_of_describe {modules : ModuleSet} {envs : Option Envs}
    {es : List (String × ModuleConfig)} {ds : List ModuleDescriptor}
    (h : es.mapM (describe modules envs) = .ok ds) : ds.map (·.importName) = es.map (·.1) := by
  induction es generalizing ds with
  | nil =>
    cases h
    rfl
  | cons e es ih =>
    rw [List.mapM_cons] at h
    cases hd : describe modules envs e with
    | error cause =>
      rw [hd] at h
      cases h
    | ok d =>
      have hname : d.importName = e.1 := by
        unfold describe at hd
        split at hd
        · cases hd
          rfl
        · cases hd
      cases hrest : es.mapM (describe modules envs) with
      | error cause =>
        rw [hd, hrest] at h
        cases h
      | ok rest =>
        rw [hd, hrest] at h
        cases h
        rw [List.map_cons, List.map_cons, hname, ih hrest]

/-- **The modules of a resolved service have different names.** -/
theorem nodup_names {serviceId : String} {modules : ModuleSet} {config : Option ServiceConfig}
    {envs : Option Envs} {d : ServiceDescriptor}
    (h : resolve serviceId modules config envs = .ok d) :
    (d.modules.map (·.importName)).Nodup := by
  simp only [resolve, bind, Except.bind] at h
  split at h
  · cases h
  · split at h
    · cases h
    · next hsupplied =>
      split at h
      · cases h
      · next hconfigured =>
        split at h
        · cases h
        · next hresolved =>
          cases h
          rw [names_of_describe hresolved]
          exact nodup_order (checkSupplied_ok.1 hsupplied).1 (checkConfigured_ok.1 hconfigured).1

end ServiceDescriptor

end ModuleHost
