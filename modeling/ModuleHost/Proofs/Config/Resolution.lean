import Mathlib.Data.List.Forall2
import Mathlib.Data.List.Nodup
import ModuleHost.Proofs.Config.Names
import ModuleHost.Proofs.Json.Shape

/-!
# Which services are resolved, and to what

A service is resolved unless something is wrong with a name. Supplied names are looked at first,
then the names of the entries, each from left to right; the first fault is the error.

* `nameFaults`, `entryFaults` — what is wrong with a name, given the names before it;
* `scan` — the faults of names from left to right;
* `ServiceDescriptor.faults` — everything that is wrong with a service, in that order;
* `Resolvable`, `faults_eq_nil` — nothing is wrong;
* `ServiceDescriptor.resolve_ok_iff` — what resolving gives;
* `ServiceDescriptor.Arranged` — the modules of a resolved service are those supplied, each once,
  those with an entry behind the others;
* **`ServiceDescriptor.resolves`**: a service is resolved if and only if nothing is wrong, its
  modules then are arranged, and otherwise the error is the first fault.
-/

namespace ModuleHost

/-! ## Faults -/

/-- What is wrong with a name behind the names `before`. -/
def nameFaults (before : List String) (name : String) : List ConfigError :=
  (if name = "" then [.emptyImportName] else []) ++
    if name ∈ before then [.duplicateModule name] else []

/-- What is wrong with the name of an entry behind the entries `before`. -/
def entryFaults (supplied before : List String) (name : String) : List ConfigError :=
  nameFaults before name ++ if name ∈ supplied then [] else [.missingBytes name]

/-- What is wrong with names, each of them seen behind those before it. -/
def scan (faults : List String → String → List ConfigError) (names : List String) :
    List ConfigError :=
  (names.mapIdx fun i name => faults (names.take i) name).flatten

/-- A check that stops at the first fault. -/
def refuseFirst : List ConfigError → Except ConfigError Unit
  | [] => .ok ()
  | e :: _ => .error e

@[simp]
theorem scan_nil (faults : List String → String → List ConfigError) : scan faults [] = [] := rfl

theorem scan_cons (faults : List String → String → List ConfigError) (name : String)
    (names : List String) :
    scan faults (name :: names) =
      faults [] name ++ scan (fun before => faults (name :: before)) names := by
  rw [scan, List.mapIdx_cons, List.flatten_cons, List.take_zero]
  rfl

@[simp]
theorem refuseFirst_ok {es : List ConfigError} : refuseFirst es = .ok () ↔ es = [] := by
  cases es <;> simp [refuseFirst]

theorem refuseFirst_append (es es' : List ConfigError) :
    refuseFirst (es ++ es') = refuseFirst es >>= fun _ => refuseFirst es' := by
  cases es <;> rfl

theorem nameFaults_congr (before before' : List String)
    (h : ∀ name, name ∈ before ↔ name ∈ before') : nameFaults before = nameFaults before' := by
  funext name
  simp only [nameFaults, h]

theorem entryFaults_congr (supplied before before' : List String)
    (h : ∀ name, name ∈ before ↔ name ∈ before') :
    entryFaults supplied before = entryFaults supplied before' := by
  funext name
  simp only [entryFaults, nameFaults_congr before before' h]

/-- A check that goes through names, remembering those it has seen, stops at the first fault. -/
theorem check_behind {check : List String → List String → Except ConfigError Unit}
    {faults : List String → String → List ConfigError} (hnil : ∀ seen, check seen [] = .ok ())
    (hcons : ∀ seen name names, check seen (name :: names) =
      refuseFirst (faults seen name) >>= fun _ => check (name :: seen) names)
    (hcongr : ∀ before before', (∀ name, name ∈ before ↔ name ∈ before') →
      faults before = faults before') (seen names : List String) :
    check seen names = refuseFirst (scan (fun before => faults (seen ++ before)) names) := by
  induction names generalizing seen with
  | nil => exact hnil seen
  | cons name names ih =>
    have hrest : (fun before => faults (seen ++ name :: before)) =
        fun before => faults (name :: seen ++ before) := by
      funext before
      exact hcongr _ _ (by simp [or_left_comm])
    rw [hcons, ih, scan_cons, hrest, List.append_nil, refuseFirst_append]

theorem checkSupplied_cons (seen : List String) (name : String) (names : List String) :
    checkSupplied seen (name :: names) =
      refuseFirst (nameFaults seen name) >>= fun _ => checkSupplied (name :: seen) names := by
  rw [checkSupplied]
  by_cases hempty : name = ""
  · subst hempty
    rfl
  by_cases hseen : name ∈ seen
  · simp [nameFaults, refuseFirst, hempty, hseen, bind, Except.bind]
  · simp [nameFaults, refuseFirst, hempty, hseen, bind, Except.bind]

theorem checkConfigured_cons (supplied seen : List String) (name : String) (names : List String) :
    checkConfigured supplied seen (name :: names) =
      refuseFirst (entryFaults supplied seen name) >>= fun _ =>
        checkConfigured supplied (name :: seen) names := by
  rw [checkConfigured]
  by_cases hempty : name = ""
  · subst hempty
    rfl
  by_cases hseen : name ∈ seen
  · simp [entryFaults, nameFaults, refuseFirst, hempty, hseen, bind, Except.bind]
  by_cases hsupplied : name ∈ supplied
  · simp [entryFaults, nameFaults, refuseFirst, hempty, hseen, hsupplied, bind, Except.bind]
  · simp [entryFaults, nameFaults, refuseFirst, hempty, hseen, hsupplied, bind, Except.bind]

theorem checkSupplied_eq (names : List String) :
    checkSupplied [] names = refuseFirst (scan nameFaults names) :=
  check_behind (fun _ => rfl) checkSupplied_cons nameFaults_congr [] names

theorem checkConfigured_eq (supplied names : List String) :
    checkConfigured supplied [] names = refuseFirst (scan (entryFaults supplied) names) :=
  check_behind (fun _ => rfl) (checkConfigured_cons supplied) (entryFaults_congr supplied) [] names

/-- Nothing is wrong with the names of a service. -/
structure Resolvable (modules : ModuleSet) (config : ServiceConfig) : Prop where
  nonempty : modules ≠ []
  named : ∀ m ∈ modules, m.1 ≠ ""
  distinct : (modules.map (·.1)).Nodup
  entriesNamed : ∀ e ∈ config.modules, e.importName ≠ ""
  entriesDistinct : (config.modules.map (·.importName)).Nodup
  supplied : ∀ e ∈ config.modules, e.importName ∈ modules.map (·.1)

namespace ServiceDescriptor

/-- Everything that is wrong with a service, in the order in which it is looked for. -/
def faults (serviceId : String) (modules : ModuleSet) (config : ServiceConfig) :
    List ConfigError :=
  (if modules = [] then [.noModules serviceId] else []) ++ scan nameFaults (modules.map (·.1)) ++
    scan (entryFaults (modules.map (·.1))) (config.modules.map (·.importName))

theorem faults_eq_nil {serviceId : String} {modules : ModuleSet} {config : ServiceConfig} :
    faults serviceId modules config = [] ↔ Resolvable modules config := by
  have hsupplied (names : List String) :
      scan nameFaults names = [] ↔ checkSupplied [] names = .ok () := by
    rw [checkSupplied_eq, refuseFirst_ok]
  have hconfigured (supplied names : List String) :
      scan (entryFaults supplied) names = [] ↔ checkConfigured supplied [] names = .ok () := by
    rw [checkConfigured_eq, refuseFirst_ok]
  rw [faults, List.append_eq_nil_iff, List.append_eq_nil_iff, hsupplied, hconfigured,
    checkSupplied_ok, checkConfigured_ok]
  constructor
  · rintro ⟨⟨hnonempty, hdistinct, hnamed⟩, hentries, hnames⟩
    refine ⟨by simpa using hnonempty, ?_, hdistinct, ?_, hentries, ?_⟩
    · intro m hm
      simpa using (hnamed m.1 (List.mem_map_of_mem hm)).1
    · intro e he
      simpa using (hnames e.importName (List.mem_map_of_mem he)).1
    · intro e he
      exact (hnames e.importName (List.mem_map_of_mem he)).2.2
  · intro h
    refine ⟨⟨by simpa using h.nonempty, h.distinct, ?_⟩, h.entriesDistinct, ?_⟩
    · refine List.forall_mem_map.2 fun m hm => ⟨?_, List.not_mem_nil⟩
      simpa using h.named m hm
    · refine List.forall_mem_map.2 fun e he => ⟨?_, List.not_mem_nil, h.supplied e he⟩
      simpa using h.entriesNamed e he

/-! ## Resolving -/

section

variable {serviceId : String} {modules : ModuleSet} {config : ServiceConfig}
  {envs : Option Envs} {d : ServiceDescriptor}

/-- Resolving stops at the first fault and then describes the modules in order. -/
theorem resolve_eq (serviceId : String) (modules : ModuleSet) (config : Option ServiceConfig)
    (envs : Option Envs) :
    resolve serviceId modules config envs =
      refuseFirst (faults serviceId modules (config.getD {})) >>= fun _ =>
        (order modules (config.getD {})).mapM (describe modules envs) >>= fun ds =>
          .ok ⟨serviceId, ds, (config.getD {}).fallback⟩ := by
  rw [faults, refuseFirst_append, refuseFirst_append, ← checkSupplied_eq, ← checkConfigured_eq]
  cases modules with
  | nil => rfl
  | cons m modules =>
    simp only [resolve, List.isEmpty_cons, List.map_cons, refuseFirst, bind, Except.bind]
    cases checkSupplied [] (m.1 :: modules.map (·.1)) with
    | error e => rfl
    | ok u => rfl

/-- A module of a resolved service stands for a name and its settings in the order. -/
theorem describe_ok {e : String × ModuleConfig} {m : ModuleDescriptor} :
    describe modules envs e = .ok m ↔
      m.importName = e.1 ∧ modules.lookup e.1 = some m.bytes ∧ m.config = e.2.resolveEnvs envs := by
  unfold describe
  cases modules.lookup e.1 with
  | none => simp
  | some bytes =>
    cases m
    simp only [Except.ok.injEq, ModuleDescriptor.mk.injEq, Option.some.injEq, eq_comm]

/-- Modules stand for the places of an order, one by one. -/
abbrev Described (modules : ModuleSet) (envs : Option Envs) :
    List (String × ModuleConfig) → List ModuleDescriptor → Prop :=
  List.Forall₂ fun e m => describe modules envs e = .ok m

theorem mapM_eq_ok {ε α β : Type} {f : α → Except ε β} {as : List α} {bs : List β} :
    as.mapM f = .ok bs ↔ List.Forall₂ (fun a b => f a = .ok b) as bs := by
  induction as generalizing bs with
  | nil => simp [pure, Except.pure, eq_comm]
  | cons a as ih =>
    rw [List.mapM_cons, List.forall₂_cons_left_iff]
    simp only [← ih]
    cases f a with
    | error e => simp [bind, Except.bind]
    | ok b =>
      cases as.mapM f with
      | error e => simp [bind, Except.bind]
      | ok bs => simp [bind, Except.bind, pure, Except.pure, eq_comm]

/-- **What resolving gives**, if it gives a service. -/
theorem resolve_ok_iff {config : Option ServiceConfig} :
    resolve serviceId modules config envs = .ok d ↔
      Resolvable modules (config.getD {}) ∧ d.serviceId = serviceId ∧
        d.fallback = (config.getD {}).fallback ∧
        Described modules envs (order modules (config.getD {})) d.modules := by
  have sound : faults serviceId modules (config.getD {}) = [] ↔
      Resolvable modules (config.getD {}) := faults_eq_nil
  rw [resolve_eq, ← sound, Described, ← mapM_eq_ok]
  cases faults serviceId modules (config.getD {}) with
  | cons e es => simp [refuseFirst, bind, Except.bind]
  | nil =>
    cases d
    cases (order modules (config.getD {})).mapM (describe modules envs) with
    | error e => simp [refuseFirst, bind, Except.bind]
    | ok ds =>
      simp only [refuseFirst, bind, Except.bind, Except.ok.injEq, mk.injEq, true_and, eq_comm]
      tauto

end

/-! ## Modules in order -/

section

variable {modules : ModuleSet} {config : ServiceConfig}

theorem lookup_eq_some_iff (distinct : (modules.map (·.1)).Nodup) {name : String}
    {bytes : ModuleBytes} : modules.lookup name = some bytes ↔ (name, bytes) ∈ modules := by
  constructor
  · intro h
    obtain ⟨before, after, rfl, -⟩ := List.lookup_eq_some_iff.1 h
    exact List.mem_append_right _ List.mem_cons_self
  · intro h
    obtain ⟨before, after, rfl⟩ := List.append_of_mem h
    refine List.lookup_eq_some_iff.2 ⟨before, after, rfl, fun other hother => ?_⟩
    -- the names before are others
    rw [List.map_append, List.map_cons, List.nodup_append'] at distinct
    have hname : other.1 ∉ name :: after.map (·.1) := distinct.2.2 (List.mem_map_of_mem hother)
    rw [List.mem_cons, not_or] at hname
    simpa using Ne.symm hname.1

theorem perm_order (h : Resolvable modules config) :
    ((order modules config).map (·.1)).Perm (modules.map (·.1)) := by
  refine (List.perm_ext_iff_of_nodup (nodup_order h.distinct h.entriesDistinct) h.distinct).2
    fun name => ?_
  rw [names_order, List.mem_append, List.mem_filter]
  by_cases hentry : name ∈ config.modules.map (·.importName)
  · obtain ⟨e, he, rfl⟩ := List.mem_map.1 hentry
    simpa [hentry] using h.supplied e he
  · simp [hentry]

/-- A name is in the order with the settings of its entry, or with those for modules without one. -/
theorem mem_order {e : String × ModuleConfig} (h : e ∈ order modules config) :
    (∃ entry ∈ config.modules, entry.importName = e.1 ∧ entry.config = e.2) ∨
      e.1 ∉ config.modules.map (·.importName) ∧ e.2 = config.fallback.getD {} := by
  rcases List.mem_append.1 h with h | h
  · obtain ⟨name, hname, rfl⟩ := List.mem_map.1 h
    refine .inr ⟨?_, rfl⟩
    simpa using (List.mem_filter.1 hname).2
  · obtain ⟨entry, hentry, rfl⟩ := List.mem_map.1 h
    exact .inl ⟨entry, hentry, rfl, rfl⟩

end

/-- The modules of a service are those supplied, each once and with its own settings, those with an
entry behind the others. -/
structure Arranged (serviceId : String) (modules : ModuleSet) (config : ServiceConfig)
    (envs : Option Envs) (d : ServiceDescriptor) : Prop where
  serviceId : d.serviceId = serviceId
  fallback : d.fallback = config.fallback
  /-- Modules without an entry come in the order in which they are supplied, then those with one
  in the order of the entries. -/
  names : d.modules.map (·.importName) =
    (modules.map (·.1)).filter (fun name => name ∉ config.modules.map (·.importName)) ++
      config.modules.map (·.importName)
  once : (d.modules.map (·.importName)).Nodup
  /-- With the bytes supplied for their names they are the modules supplied. -/
  supplied : (d.modules.map fun m => (m.importName, m.bytes)).Perm modules
  /-- The settings of a module with an entry are those of the entry, up to its variables. -/
  configured : ∀ m ∈ d.modules, ∀ e ∈ config.modules, e.importName = m.importName →
    m.config = e.config.resolveEnvs envs
  /-- The settings of any other module are those for modules without an entry. -/
  unconfigured : ∀ m ∈ d.modules, m.importName ∉ config.modules.map (·.importName) →
    m.config = (config.fallback.getD {}).resolveEnvs envs
  /-- The last module is that of the last entry; without entries it is the last one supplied. -/
  facade : d.facadeName? =
    (config.modules.getLast?.map (·.importName)).or (modules.getLast?.map (·.1))

section

variable {modules : ModuleSet} {config : ServiceConfig} {envs : Option Envs}
  {ds : List ModuleDescriptor}

theorem exists_of_described {es : List (String × ModuleConfig)}
    (h : Described modules envs es ds) {m : ModuleDescriptor} (hm : m ∈ ds) :
    ∃ e ∈ es, m.importName = e.1 ∧ modules.lookup e.1 = some m.bytes ∧
      m.config = e.2.resolveEnvs envs := by
  obtain ⟨e, he, hdescribe⟩ := exists_mem_of_forall₂ h m hm
  exact ⟨e, he, describe_ok.1 hdescribe⟩

theorem exists_described (h : Resolvable modules config) (envs : Option Envs) :
    ∃ ds, Described modules envs (order modules config) ds := by
  refine exists_forall₂ fun e he => ?_
  have hname : e.1 ∈ modules.map (·.1) := (perm_order h).mem_iff.1 (List.mem_map_of_mem he)
  obtain ⟨⟨name, bytes⟩, hmem, rfl⟩ := List.mem_map.1 hname
  exact ⟨⟨e.1, bytes, e.2.resolveEnvs envs⟩,
    describe_ok.2 ⟨rfl, (lookup_eq_some_iff h.distinct).2 hmem, rfl⟩⟩

theorem names_of_described {es : List (String × ModuleConfig)}
    (h : Described modules envs es ds) : ds.map (·.importName) = es.map (·.1) :=
  names_of_describe (mapM_eq_ok.2 h)

theorem perm_described (h : Resolvable modules config)
    (hds : Described modules envs (order modules config) ds) :
    (ds.map fun m => (m.importName, m.bytes)).Perm modules := by
  have hnames : (ds.map (·.importName)).Perm (modules.map (·.1)) :=
    names_of_described hds ▸ perm_order h
  have hfst : (ds.map fun m => (m.importName, m.bytes)).map (·.1) = ds.map (·.importName) := by
    rw [List.map_map]
    rfl
  have hnodup : (ds.map fun m => (m.importName, m.bytes)).Nodup := by
    apply List.Nodup.of_map (·.1)
    rw [hfst]
    exact hnames.nodup_iff.2 h.distinct
  have hmem : ∀ m ∈ ds, (m.importName, m.bytes) ∈ modules := by
    intro m hm
    obtain ⟨e, -, hname, hbytes, -⟩ := exists_of_described hds hm
    rw [hname]
    exact (lookup_eq_some_iff h.distinct).1 hbytes
  refine (List.perm_ext_iff_of_nodup hnodup h.distinct.of_map).2 fun supplied => ?_
  constructor
  · intro hsupplied
    obtain ⟨m, hm, rfl⟩ := List.mem_map.1 hsupplied
    exact hmem m hm
  · intro hsupplied
    -- the module of that name has the bytes that were supplied
    obtain ⟨m, hm, hname⟩ := List.mem_map.1 (hnames.mem_iff.2 (List.mem_map_of_mem hsupplied))
    have heq := List.inj_on_of_nodup_map h.distinct (hmem m hm) hsupplied hname
    exact heq ▸ List.mem_map_of_mem hm

theorem getLast?_order (modules : ModuleSet) (config : ServiceConfig) :
    ((order modules config).map (·.1)).getLast? =
      (config.modules.getLast?.map (·.importName)).or (modules.getLast?.map (·.1)) := by
  rw [names_order, List.getLast?_append, List.getLast?_map]
  cases hlast : config.modules.getLast? with
  | none =>
    rw [List.getLast?_eq_none_iff.1 hlast]
    simp
  | some e => simp

end

/-- **The modules of a resolved service are arranged.** -/
theorem arranged_of_resolve {serviceId : String} {modules : ModuleSet}
    {config : Option ServiceConfig} {envs : Option Envs} {d : ServiceDescriptor}
    (h : resolve serviceId modules config envs = .ok d) :
    Arranged serviceId modules (config.getD {}) envs d := by
  obtain ⟨sound, hid, hfallback, hds⟩ := resolve_ok_iff.1 h
  have hnames := names_of_described hds
  constructor
  case serviceId => exact hid
  case fallback => exact hfallback
  case names =>
    rw [hnames, names_order]
    simp only [List.contains_eq_mem, decide_not]
  case once => exact hnames ▸ nodup_order sound.distinct sound.entriesDistinct
  case supplied => exact perm_described sound hds
  case configured =>
    intro m hm entry hentry hname
    obtain ⟨e, he, hfst, -, hconfig⟩ := exists_of_described hds hm
    rcases mem_order he with ⟨entry', hentry', hname', hconfig'⟩ | ⟨hnone, -⟩
    · obtain rfl : entry' = entry := List.inj_on_of_nodup_map sound.entriesDistinct hentry' hentry
        (by rw [hname', hname, hfst])
      rw [hconfig, hconfig']
    · exact absurd (List.mem_map.2 ⟨entry, hentry, by rw [hname, hfst]⟩) hnone
  case unconfigured =>
    intro m hm hnone
    obtain ⟨e, he, hfst, -, hconfig⟩ := exists_of_described hds hm
    rcases mem_order he with ⟨entry, hentry, hname, -⟩ | ⟨-, hconfig'⟩
    · exact absurd (List.mem_map.2 ⟨entry, hentry, by rw [hname, hfst]⟩) hnone
    · rw [hconfig, hconfig']
  case facade =>
    rw [facadeName?, facade?, ← List.getLast?_map, hnames, getLast?_order]

/-- What comes of resolving. -/
structure Resolves (serviceId : String) (modules : ModuleSet) (config : ServiceConfig)
    (envs : Option Envs) (result : Except ConfigError ServiceDescriptor) : Prop where
  ok_iff : (∃ d, result = .ok d) ↔ Resolvable modules config
  error_iff : ∀ e, result = .error e ↔ (faults serviceId modules config).head? = some e
  arranged : ∀ d, result = .ok d → Arranged serviceId modules config envs d

/-- **A service is resolved if and only if nothing is wrong with it**; its modules then are
arranged. Otherwise the error is the first fault. -/
theorem resolves (serviceId : String) (modules : ModuleSet) (config : Option ServiceConfig)
    (envs : Option Envs) :
    Resolves serviceId modules (config.getD {}) envs
      (resolve serviceId modules config envs) := by
  constructor
  case ok_iff =>
    refine ⟨fun ⟨d, h⟩ => (resolve_ok_iff.1 h).1, fun sound => ?_⟩
    obtain ⟨ds, hds⟩ := exists_described sound envs
    exact ⟨⟨serviceId, ds, _⟩, resolve_ok_iff.2 ⟨sound, rfl, rfl, hds⟩⟩
  case error_iff =>
    intro e
    rw [resolve_eq]
    cases hfaults : faults serviceId modules (config.getD {}) with
    | cons e' es => simp [refuseFirst, bind, Except.bind]
    | nil =>
      obtain ⟨ds, hds⟩ := exists_described (faults_eq_nil.1 hfaults) envs
      simp [refuseFirst, bind, Except.bind, mapM_eq_ok.2 hds]
  case arranged => exact fun d => arranged_of_resolve

end ServiceDescriptor

end ModuleHost
