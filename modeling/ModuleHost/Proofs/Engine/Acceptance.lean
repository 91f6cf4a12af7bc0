import ModuleHost.Proofs.Engine.Exports
import ModuleHost.Proofs.Engine.Siblings

/-!
# Which services are registered

The modules of a service are linked well if every import of a module names a function of the host,
an export of the control module or a function of a module before, at its type. Such a service is
registered unless a module lists a function of a sibling twice, takes one from a module of a
reserved name, or shares its memory.

* `FromHost`, `FromControl`, `FromBefore` — where an import comes from;
* `ModuleDescriptor.WellLinked`, `ServiceDescriptor.WellLinked` — modules that are linked well;
* `ServiceDescriptor.Completes` — segments fit and start functions return;
* `Wasm.Module.Admissible` — what a registration asks for besides;
* `addModule_succeeds`, `admissible_of_addModule` — one module;
* `Composed.admissible`, `Composed.succeeds` — the modules up to a stage, the modules behind it;
* **`Engine.register_iff`**: a service whose modules are linked well is registered if and only if
  its modules are admissible.
-/

namespace ModuleHost

open Wasm (Store Run Instance Extern Regime Module PartType)
open Registering

/-! ## Modules that are linked well -/

/-- The functions of the host that modules import, with their types. -/
def hostTypes : List (String × Wasm.FuncType) :=
  [("log_utf8_string", wordFunction 5 0), ("get_call_parameters", wordFunction 2 1)]

/-- An import names a function of the host at its type. -/
def FromHost (m : Module) (i : Wasm.Import) : Prop :=
  i.module = hostNamespace ∧
    ∃ f ∈ hostTypes, f.1 = i.name ∧ m.typeOf? i.type = some (.func f.2)

/-- An import names an export of the control module at its type. -/
def FromControl (control m : Module) (i : Wasm.Import) : Prop :=
  i.module = controlNamespace ∧ ∃ wanted ∈ m.typeOf? i.type,
    ∃ given ∈ control.exportType? i.name, wanted.admits given

/-- An import names a callable function that a module before exports. -/
def FromBefore (before : List ModuleDescriptor) (m : Module) (i : Wasm.Import) : Prop :=
  m.typeOf? i.type = some (.func callableType) ∧ ∃ md ∈ before, md.importName = i.module ∧
    ∃ m' ∈ Module.decode? md.bytes.bytes, m'.exportType? i.name = some (.func callableType)

instance (m : Module) (i : Wasm.Import) : Decidable (FromHost m i) := by
  unfold FromHost
  infer_instance

instance (control m : Module) (i : Wasm.Import) : Decidable (FromControl control m i) := by
  unfold FromControl
  infer_instance

instance (before : List ModuleDescriptor) (m : Module) (i : Wasm.Import) :
    Decidable (FromBefore before m i) := by
  unfold FromBefore
  infer_instance

/-- A module is valid, has metadata, a memory and an allocator, and its imports are there. -/
def ModuleDescriptor.WellLinked (control : Module) (before : List ModuleDescriptor)
    (md : ModuleDescriptor) : Prop :=
  (Interface.ofModule md.bytes.bytes).isOk ∧ ∃ m ∈ Module.decode? md.bytes.bytes,
    (m.exportType? memoryName).map PartType.kind = some .memory ∧
    m.exportType? allocateName = some (.func (wordFunction 1 1)) ∧
    ∀ i ∈ m.imports, FromHost m i ∨ FromControl control m i ∨ FromBefore before m i

instance (control : Module) (before : List ModuleDescriptor) (md : ModuleDescriptor) :
    Decidable (md.WellLinked control before) := by
  unfold ModuleDescriptor.WellLinked
  infer_instance

/-- The modules of a service are linked well. -/
def ServiceDescriptor.WellLinked (control : Module) (d : ServiceDescriptor) : Prop :=
  ∀ before md after, d.modules = before ++ md :: after → md.WellLinked control before

/-- The elements and the data of the modules of a service fit and their start functions return,
whenever the modules before are instantiated. -/
def ServiceDescriptor.Completes (regime : Regime) (control : Module) (d : ServiceDescriptor)
    (sink : Sink) : Prop :=
  ∀ before md after s earlier m parts, d.modules = before ++ md :: after →
    Composed regime control d sink before s earlier → Module.decode? md.bytes.bytes = some m →
    let functions := importable s.data.loggers.length m.imports
    let s₁ := offering s (md.logger d.serviceId) functions
    m.link? s₁ (resolveImport (s.instances.getD 0 {}) (offered s functions)) = some parts →
      ∃ place s₂, m.instantiate hostFunctions regime parts s₁ = .value place s₂

/-- What a registration asks for of a module that is linked well. -/
structure Wasm.Module.Admissible (m control : Module) : Prop where
  /-- No function of a sibling is listed twice. -/
  once : ((m.imports.filter isSiblingImport).map fun i => (i.module, i.name)).Nodup
  /-- Under the names of the host and of the control module nothing else is found. -/
  reserved : ∀ i ∈ m.imports, ¬ isSiblingImport i → FromHost m i ∨ FromControl control m i
  /-- The memory is not shared. -/
  unshared : ∀ type ∈ m.exportType? memoryName, type.isShared = false

instance (m control : Module) : Decidable (m.Admissible control) :=
  decidable_of_iff (_ ∧ _ ∧ _) ⟨fun ⟨once, reserved, unshared⟩ => ⟨once, reserved, unshared⟩,
    fun h => ⟨h.once, h.reserved, h.unshared⟩⟩

/-! ## Linking -/

section

variable {s : Store guests} {m : Module} {logger : Logger} {position : Nat}

theorem exists_mapM_iff {α β : Type} {f : α → Option β} {as : List α} :
    (∃ bs, as.mapM f = some bs) ↔ ∀ a ∈ as, ∃ b, f a = some b := by
  induction as with
  | nil => simp
  | cons a as ih =>
    rw [List.forall_mem_cons, ← ih]
    simp only [List.mapM_cons, Option.pure_def, Option.bind_eq_bind, Option.bind_eq_some_iff,
      Option.some.injEq]
    constructor
    · rintro ⟨_, b, hb, bs, hbs, -⟩
      exact ⟨⟨b, hb⟩, bs, hbs⟩
    · rintro ⟨⟨b, hb⟩, bs, hbs⟩
      exact ⟨_, b, hb, bs, hbs, rfl⟩

theorem exists_link_iff {resolve : Wasm.Import → Option Extern} :
    (∃ parts, m.link? s resolve = some parts) ↔ ∀ i ∈ m.imports, ∃ part,
      resolve i = some part ∧ ∃ type, m.typeOf? i.type = some type ∧ s.Fits type part := by
  simp only [Module.link?, exists_mapM_iff, Option.filter_eq_some_iff, Wasm.provides_iff]

theorem isSiblingImport_iff {i : Wasm.Import} :
    isSiblingImport i ↔ i.module ≠ hostNamespace ∧ i.module ≠ controlNamespace := by
  simp [isSiblingImport]

/-- What a module can import is the functions of the host and those of siblings that it lists. -/
theorem mem_importable {imports : List Wasm.Import} {f : (String × String) × HostFunction} :
    f ∈ importable position imports ↔
      f = ((hostNamespace, "log_utf8_string"), .log position) ∨
      f = ((hostNamespace, "get_call_parameters"), .callParameters) ∨
      ∃ i ∈ imports, isSiblingImport i ∧ f = ((i.module, i.name), .sibling i.module i.name) := by
  simp only [importable, List.mem_append, List.mem_cons, List.not_mem_nil, or_false, List.mem_map,
    List.mem_filter, or_assoc, and_assoc, eq_comm]

/-- The names of what a module can import are distinct if it lists no function of a sibling twice.
-/
theorem nodup_importable {imports : List Wasm.Import} :
    ((importable position imports).map (·.1)).Nodup ↔
      ((imports.filter isSiblingImport).map fun i => (i.module, i.name)).Nodup := by
  have hsiblings : ((imports.filter isSiblingImport).map fun i => ((i.module, i.name),
      HostFunction.sibling i.module i.name)).map (·.1) =
        (imports.filter isSiblingImport).map fun i => (i.module, i.name) := by
    rw [List.map_map]
    rfl
  have hhost : ∀ name, (hostNamespace, name) ∉
      (imports.filter isSiblingImport).map fun i => (i.module, i.name) := by
    intro name hmem
    obtain ⟨i, hi, hname⟩ := List.mem_map.1 hmem
    exact (isSiblingImport_iff.1 (List.mem_filter.1 hi).2).1 (congrArg Prod.fst hname)
  rw [importable, List.map_append, hsiblings, List.nodup_append']
  constructor
  · exact fun h => h.2.1
  · refine fun h => ⟨by simp, h, ?_⟩
    intro name hname hmem
    obtain ⟨module, function⟩ := name
    obtain ⟨rfl, -⟩ | ⟨rfl, -⟩ : module = hostNamespace ∧ _ ∨ module = hostNamespace ∧ _ := by
      simpa using hname
    · exact hhost _ hmem
    · exact hhost _ hmem

theorem exists_offered (s : Store guests) {functions : List ((String × String) × HostFunction)}
    {f : (String × String) × HostFunction} (hf : f ∈ functions) :
    ∃ place, (offered s functions).lookup f.1 = some place := by
  obtain ⟨k, hk⟩ := List.mem_iff_getElem?.1 hf
  have hlt : k < functions.length := (List.getElem?_eq_some_iff.1 hk).1
  have hzip : (offered s functions)[k]? = some (f.1, s.functions.length + k) := by
    rw [offered, List.getElem?_zip_eq_some, List.getElem?_map, hk]
    exact ⟨rfl, by simp [Wasm.newPlaces, hlt]⟩
  cases hplace : (offered s functions).lookup f.1 with
  | some place => exact ⟨place, rfl⟩
  | none =>
    have hne := List.lookup_eq_none_iff.1 hplace _ (List.mem_of_getElem? hzip)
    simp at hne

/-- An import under another name than that of the control module leads to the function that is
offered under its name. -/
theorem fits_of_importable {control : Instance} {i : Wasm.Import}
    (hcontrol : i.module ≠ controlNamespace)
    (hnodup : ((importable position m.imports).map (·.1)).Nodup)
    {f : (String × String) × HostFunction} (hf : f ∈ importable position m.imports)
    (hname : f.1 = (i.module, i.name)) :
    ∃ part, resolveImport control (offered s (importable position m.imports)) i = some part ∧
      (offering s logger (importable position m.imports)).Fits (.func f.2.type) part := by
  obtain ⟨place, hplace⟩ := exists_offered s hf
  rw [hname] at hplace
  obtain ⟨-, f', hf', hname', hfunction⟩ := getElem?_of_offered logger hplace
  obtain rfl : f' = f := List.inj_on_of_nodup_map hnodup hf' hf (hname'.trans hname.symm)
  refine ⟨.func place, ?_, _, hfunction, rfl⟩
  rw [resolveImport, if_neg hcontrol, hplace, Option.map_some]

end

/-! ## Allocators -/

section

variable {s : Store guests} {m : Module} {i : Instance} {limits : Wasm.Limits}

/-- A part that is of the type of a function is one of no other type. -/
theorem Wasm.Store.Fits.eq_func {type : Wasm.FuncType} {given : PartType} {part : Extern}
    (h : s.Fits (.func type) part) (h' : s.Fits given part) : given = .func type := by
  cases part with
  | func place =>
    obtain ⟨f, hf, rfl⟩ := h
    cases given with
    | func type' =>
      obtain ⟨f', hf', rfl⟩ := h'
      rw [hf] at hf'
      cases hf'
      rfl
    | table | memory | global => exact h'.elim
  | table | memory | global => exact h.elim

/-- An instance exports the functions that its module exports. -/
theorem Wasm.Instance.Typed.exportedFunction? (typed : i.Typed m s) {name : String}
    {type : Wasm.FuncType} (h : m.exportType? name = some (.func type)) :
    ∃ place, ModuleHost.exportedFunction? i name = some place ∧ hasType s place type := by
  obtain ⟨part, hpart, fits⟩ := typed.of_exportType? h
  cases part with
  | func place => exact ⟨place, by rw [ModuleHost.exportedFunction?, hpart], hasType_iff.2 fits⟩
  | table | memory | global => exact fits.elim

/-- An instance whose memory is not shared can be called. -/
theorem Wasm.Instance.Typed.ofInstance (typed : i.Typed m s)
    (hmemory : m.exportType? memoryName = some (.memory limits)) (hshared : limits.shared = false)
    (hallocate : m.exportType? allocateName = some (.func (wordFunction 1 1))) :
    ∃ a, Allocator.ofInstance s i = .ok a := by
  obtain ⟨part, hpart, fits⟩ := typed.of_exportType? hmemory
  obtain ⟨allocate, hexport, htype⟩ := typed.exportedFunction? hallocate
  cases part with
  | memory place =>
    obtain ⟨memory, hmem, hmemshared, -⟩ := fits
    have hplace : exportedMemory? s i = some place := by
      rw [exportedMemory?, hpart]
      simp [hmem, hmemshared, hshared]
    refine ⟨⟨place, allocate, Allocator.deallocate? s i⟩, ?_⟩
    have hfilter : (some allocate).filter (hasType s · (wordFunction 1 1)) = some allocate := by
      rw [Option.filter_some, if_pos htype]
    rw [Allocator.ofInstance, hplace, hexport, hfilter]
  | func | table | global => exact fits.elim

/-- An instance that can be called has a memory that is not shared. -/
theorem Wasm.Instance.Typed.unshared (typed : i.Typed m s)
    (hmemory : m.exportType? memoryName = some (.memory limits)) {a : Allocator}
    (ha : Allocator.ofInstance s i = .ok a) : limits.shared = false := by
  obtain ⟨part, hpart, fits⟩ := typed.of_exportType? hmemory
  have hexport := (Allocator.of_ofInstance ha).memory
  cases part with
  | memory place =>
    obtain ⟨memory, hmem, hmemshared, -⟩ := fits
    rw [exportedMemory?, hpart] at hexport
    rw [← hmemshared]
    by_contra hshared
    simp [hmem, hshared] at hexport
  | func | table | global => exact fits.elim

end

/-! ## One module -/

namespace Composed

variable {regime : Regime} {control : Module} {d : ServiceDescriptor} {sink : Sink}
  {done : List ModuleDescriptor} {s : Store guests} {earlier : RegisteredModules}
  (valid : control.isValid) (whole : control.Whole) (bare : control.imports = [])

section

variable (h : Composed regime control d sink done s earlier) {md : ModuleDescriptor} {m : Module}

include valid whole bare h

/-- An import from a module before leads to a function of its instance. -/
theorem exists_sibling (names : (done.map (·.importName)).Nodup) {i : Wasm.Import}
    (before : FromBefore done m i) : ∃ sibling target place,
      earlier.get? i.module = some sibling ∧ s.instances[sibling.place]? = some target ∧
        exportedFunction? target i.name = some place ∧ hasType s place callableType := by
  obtain ⟨-, md', hmd', hname, m', hdecode', htype⟩ := before
  obtain ⟨position, hposition⟩ := List.mem_iff_getElem?.1 hmd'
  obtain ⟨sibling, hsibling, hplace⟩ := h.placed whole names hposition
  obtain ⟨target, htarget, typed⟩ := (h.typed valid whole bare).2 position md' m' hposition hdecode'
  obtain ⟨place, hexport, hcallable⟩ := typed.exportedFunction? htype
  exact ⟨sibling, target, place, hname ▸ hsibling, hplace ▸ htarget, hexport, hcallable⟩

theorem checkImports_of_wellLinked (names : (done.map (·.importName)).Nodup) (logger : Logger)
    (imports : ∀ i ∈ m.imports, FromHost m i ∨ FromControl control m i ∨ FromBefore done m i) :
    checkImports (logging s logger) earlier m.imports = .ok () := by
  refine checkImports_ok.2 fun i hi hsibling => ?_
  obtain ⟨hhost, hcontrol⟩ := isSiblingImport_iff.1 hsibling
  rcases imports i hi with ⟨hname, -⟩ | ⟨hname, -⟩ | before
  · exact absurd hname hhost
  · exact absurd hname hcontrol
  · obtain ⟨sibling, target, place, hget, htarget, hexport, hcallable⟩ :=
      h.exists_sibling valid whole bare names before
    have hfunc : ∃ type, i.type = .func type := by
      have htype := before.1
      cases hi : i.type with
      | func type => exact ⟨type, rfl⟩
      | table | memory | global | tag =>
        rw [hi] at htype
        cases htype
    exact ⟨sibling, hget, checkSiblingImport_ok.2
      ⟨hfunc, target, place, htarget, hexport, hcallable⟩⟩

theorem exists_link (admissible : m.Admissible control) (logger : Logger)
    (imports : ∀ i ∈ m.imports, FromHost m i ∨ FromControl control m i ∨ FromBefore done m i) :
    ∃ parts, m.link? (offering s logger (importable s.data.loggers.length m.imports))
      (resolveImport (s.instances.getD 0 {})
        (offered s (importable s.data.loggers.length m.imports))) = some parts := by
  have hnodup : ((importable s.data.loggers.length m.imports).map (·.1)).Nodup :=
    nodup_importable.2 admissible.once
  refine exists_link_iff.2 fun i hi => ?_
  have named {f : (String × String) × HostFunction} (hne : i.module ≠ controlNamespace)
      (hf : f ∈ importable s.data.loggers.length m.imports) (hname : f.1 = (i.module, i.name))
      (htype : m.typeOf? i.type = some (.func f.2.type)) : ∃ part,
      resolveImport (s.instances.getD 0 {})
          (offered s (importable s.data.loggers.length m.imports)) i = some part ∧
        ∃ type, m.typeOf? i.type = some type ∧
          (offering s logger (importable s.data.loggers.length m.imports)).Fits type part := by
    obtain ⟨part, hresolve, fits⟩ := fits_of_importable hne hnodup hf hname
    exact ⟨part, hresolve, _, htype, fits⟩
  by_cases hsibling : isSiblingImport i
  · obtain ⟨hhost, hcontrol⟩ := isSiblingImport_iff.1 hsibling
    rcases imports i hi with ⟨hname, -⟩ | ⟨hname, -⟩ | ⟨htype, -⟩
    · exact absurd hname hhost
    · exact absurd hname hcontrol
    · exact named hcontrol (mem_importable.2 (.inr (.inr ⟨i, hi, hsibling, rfl⟩))) rfl htype
  · rcases admissible.reserved i hi hsibling with
      ⟨hname, f, hf, hfname, htype⟩ | ⟨hname, wanted, hwanted, given, hgiven, hadmits⟩
    · have hne : i.module ≠ controlNamespace := by
        rw [hname]
        decide
      rcases List.mem_cons.1 hf with rfl | hf
      · refine named hne (mem_importable.2 (.inl rfl)) ?_ htype
        rw [hname, ← hfname]
      · cases List.mem_singleton.1 hf
        refine named hne (mem_importable.2 (.inr (.inl rfl))) ?_ htype
        rw [hname, ← hfname]
    · -- an export of the control module
      obtain ⟨inst, hinst, typed⟩ := (h.typed valid whole bare).1
      obtain ⟨part, hpart, fits⟩ := typed.of_exportType? hgiven
      refine ⟨part, ?_, wanted, hwanted, (fits.admits hadmits).keep (keeps_offering s _ _)⟩
      rw [resolveImport, if_pos hname, List.getD_eq_getElem?_getD, hinst]
      exact hpart

/-- **A module that is linked well and admissible is instantiated**, if its data fits and its start
function returns. -/
theorem addModule_succeeds (names : (done.map (·.importName)).Nodup)
    (linked : md.WellLinked control done)
    (admissible : ∀ m, Module.decode? md.bytes.bytes = some m → m.Admissible control)
    (completes : ∀ m parts, Module.decode? md.bytes.bytes = some m →
      let functions := importable s.data.loggers.length m.imports
      let s₁ := offering s (md.logger d.serviceId) functions
      m.link? s₁ (resolveImport (s.instances.getD 0 {}) (offered s functions)) = some parts →
        ∃ place s₂, m.instantiate hostFunctions regime parts s₁ = .value place s₂) :
    ∃ entry s', Gives (addModule regime 0 d.serviceId earlier md) s entry s' := by
  obtain ⟨hinterface, m, hdecode, hkind, hallocate, imports⟩ := linked
  obtain ⟨limits, hmemory⟩ : ∃ limits, m.exportType? memoryName = some (.memory limits) := by
    obtain ⟨type, htype, hkind⟩ := Option.map_eq_some_iff.1 hkind
    cases type with
    | memory limits => exact ⟨limits, htype⟩
    | func | table | global => cases hkind
  have admissible := admissible m hdecode
  obtain ⟨interface, hinterface⟩ : ∃ i, Interface.ofModule md.bytes.bytes = .ok i := by
    cases hof : Interface.ofModule md.bytes.bytes with
    | ok i => exact ⟨i, rfl⟩
    | error cause =>
      rw [hof] at hinterface
      cases hinterface
  have hchecks := h.checkImports_of_wellLinked valid whole bare names (md.logger d.serviceId)
    imports
  obtain ⟨parts, hlink⟩ := h.exists_link valid whole bare admissible (md.logger d.serviceId) imports
  obtain ⟨place, s₂, hinstantiate⟩ := completes m parts hdecode hlink
  have wired := (h.sound.wired_offering hchecks (md.logger d.serviceId)
    s.data.loggers.length).allocate m parts
  obtain ⟨hinst, typed⟩ := typed_of_instantiate (Wasm.Module.valid_of_decode? hdecode)
    (Wasm.Module.whole_of_decode? hdecode) hlink wired hinstantiate
  obtain ⟨a, ha⟩ := typed.ofInstance hmemory (admissible.unshared _ hmemory) hallocate
  refine ⟨⟨place, interface⟩, _, addModule_gives.2 ⟨m, s₂, parts, a, hdecode, hinterface, hchecks,
    nodup_importable.2 admissible.once, hlink, hinstantiate, ?_, rfl⟩⟩
  show Allocator.ofInstance s₂ (s₂.instances.getD place {}) = .ok a
  rw [Wasm.instantiate_value hinstantiate, List.getD_eq_getElem?_getD, hinst]
  exact ha

/-- Under a reserved name, only the control module has functions that modules can call. -/
theorem fromControl_of_resolve {i : Wasm.Import} (hsibling : ¬ isSiblingImport i)
    (htype : m.typeOf? i.type = some (.func callableType)) {logger : Logger} {part : Extern}
    (hresolve : resolveImport (s.instances.getD 0 {})
      (offered s (importable s.data.loggers.length m.imports)) i = some part)
    (fits : (offering s logger (importable s.data.loggers.length m.imports)).Fits
      (.func callableType) part) : FromControl control m i := by
  by_cases hcontrol : i.module = controlNamespace
  · obtain ⟨inst, hinst, typed⟩ := (h.typed valid whole bare).1
    rw [resolveImport, if_pos hcontrol, List.getD_eq_getElem?_getD, hinst] at hresolve
    obtain ⟨given, hgiven, hfits⟩ := (typed.keep (keeps_offering s _ _)).of_export? hresolve
    obtain rfl := fits.eq_func hfits
    exact ⟨hcontrol, _, htype, _, hgiven, by simp [PartType.admits]⟩
  · have hhost : i.module = hostNamespace := by
      by_contra hne
      exact hsibling (isSiblingImport_iff.2 ⟨hne, hcontrol⟩)
    rw [resolveImport, if_neg hcontrol] at hresolve
    obtain ⟨place, hplace, rfl⟩ := Option.map_eq_some_iff.1 hresolve
    obtain ⟨-, f, hf, hname, hfunction⟩ := getElem?_of_offered logger hplace
    obtain ⟨f', hf', hcallable⟩ := fits
    rw [hfunction] at hf'
    cases hf'
    -- the functions of the host are of other types, and no sibling has its name
    rcases mem_importable.1 hf with rfl | rfl | ⟨i', -, hi', rfl⟩
    · cases hcallable
    · cases hcallable
    · have hmodule : i'.module = i.module := congrArg Prod.fst hname
      exact absurd (hmodule.trans hhost) (isSiblingImport_iff.1 hi').1

/-- **A module that was instantiated is admissible.** -/
theorem admissible_of_addModule (linked : md.WellLinked control done) {s' : Store guests}
    {entry : RegisteredModule}
    (added : Gives (addModule regime 0 d.serviceId earlier md) s entry s')
    (hdecode : Module.decode? md.bytes.bytes = some m) : m.Admissible control := by
  obtain ⟨-, m', hdecode', -, -, imports⟩ := linked
  obtain rfl : m = m' := Option.some.inj (hdecode.symm.trans hdecode')
  obtain ⟨m', s₂, parts, a, hdecode', -, hchecks, hnodup, hlink, hinstantiate, ha, rfl⟩ :=
    addModule_gives.1 added
  obtain rfl : m = m' := Option.some.inj (hdecode.symm.trans hdecode')
  constructor
  case once => exact nodup_importable.1 hnodup
  case reserved =>
    intro i hi hsibling
    rcases imports i hi with host | control | ⟨htype, -⟩
    · exact .inl host
    · exact .inr control
    · obtain ⟨part, hresolve, type, htype', fits⟩ := exists_link_iff.1 ⟨parts, hlink⟩ i hi
      obtain rfl : type = .func callableType := Option.some.inj (htype'.symm.trans htype)
      exact .inr (h.fromControl_of_resolve valid whole bare hsibling htype hresolve fits)
  case unshared =>
    intro type hmemory
    have wired := (h.sound.wired_offering hchecks (md.logger d.serviceId)
      s.data.loggers.length).allocate m parts
    obtain ⟨hinst, typed⟩ := typed_of_instantiate (Wasm.Module.valid_of_decode? hdecode)
      (Wasm.Module.whole_of_decode? hdecode) hlink wired hinstantiate
    rw [Wasm.instantiate_value hinstantiate, List.getD_eq_getElem?_getD, hinst] at ha
    cases type with
    | memory limits => exact typed.unshared hmemory ha
    | func | table | global => rfl

end

/-! ## Services -/

theorem starts (h : Composed regime control d sink done s earlier) : ∃ s₀,
    control.instantiate hostFunctions regime [] (Service.freshStore d sink) = .value 0 s₀ := by
  induction h with
  | control ready => exact ⟨_, ready⟩
  | module _ _ ih => exact ih

section

include valid whole bare

theorem admissible (h : Composed regime control d sink done s earlier)
    (linked : d.WellLinked control) (listed : done <+: d.modules) :
    ∀ md ∈ done, ∀ m, Module.decode? md.bytes.bytes = some m → m.Admissible control := by
  induction h with
  | control => exact fun md hmd => absurd hmd List.not_mem_nil
  | @module done s s' earlier md entry before added ih =>
    obtain ⟨after, hafter⟩ := listed
    intro md' hmd' m hdecode
    rcases List.mem_append.1 hmd' with hold | hnew
    · exact ih ⟨[md] ++ after, by rw [← List.append_assoc, hafter]⟩ md' hold m hdecode
    · obtain rfl := List.mem_singleton.1 hnew
      have hlinked := linked done md' after (by rw [← hafter, List.append_assoc]; rfl)
      exact before.admissible_of_addModule valid whole bare hlinked added hdecode

/-- Behind a stage the other modules are instantiated if they are admissible. -/
theorem succeeds (h : Composed regime control d sink done s earlier) {rest : List ModuleDescriptor}
    (hrest : done ++ rest = d.modules) (names : (d.modules.map (·.importName)).Nodup)
    (linked : d.WellLinked control) (completes : d.Completes regime control sink)
    (admissible : ∀ md ∈ rest, ∀ m, Module.decode? md.bytes.bytes = some m → m.Admissible control) :
    ∃ modules s',
      Gives (ModuleHost.addModules regime 0 d.serviceId earlier rest) s modules s' := by
  -- on the modules still to come: each one takes the registration to its next stage
  induction rest generalizing done s earlier with
  | nil => exact ⟨earlier, s, gives_pure.2 ⟨rfl, rfl⟩⟩
  | cons md rest ih =>
    obtain ⟨hmd, hadmissible⟩ := List.forall_mem_cons.1 admissible
    have hnames : (done.map (·.importName)).Nodup := by
      rw [← hrest, List.map_append] at names
      exact (List.nodup_append'.1 names).1
    obtain ⟨entry, s₁, added⟩ := h.addModule_succeeds valid whole bare hnames
      (linked done md rest hrest.symm) hmd
      fun m parts hdecode => completes done md rest s earlier m parts hrest.symm h hdecode
    obtain ⟨modules, s', hmodules⟩ := ih (h.module added)
      (by rw [← hrest, List.append_assoc]; rfl) hadmissible
    exact ⟨modules, s', gives_bind.2 ⟨entry, s₁, added, hmodules⟩⟩

end

end Composed

theorem Engine.register_ok_iff {e : Engine} {d : ServiceDescriptor} {sink : Sink} :
    (∃ handle, (e.register d sink).result = some (.ok handle)) ↔ ∃ modules s,
      Gives (registerModules e.regime e.control d) (Service.freshStore d sink) modules s := by
  unfold register Service.build Gives
  cases (registerModules e.regime e.control d).run (Service.freshStore d sink) with
  | stop why s => exact ⟨fun ⟨_, h⟩ => (nomatch h), fun ⟨_, _, h⟩ => (nomatch h)⟩
  | value result s =>
    cases result with
    | error cause => exact ⟨fun ⟨_, h⟩ => (nomatch h), fun ⟨_, _, h⟩ => (nomatch h)⟩
    | ok modules => exact ⟨fun _ => ⟨modules, s, rfl⟩, fun _ => ⟨_, rfl⟩⟩

/-- **A service whose modules are linked well is registered if and only if the control module
starts and the modules are admissible.** -/
theorem Engine.register_iff {regime : Regime} {bytes : Bytes} {e : Engine}
    (compiled : compile regime bytes = .ok e) {id : String} {modules : ModuleSet}
    {config : Option ServiceConfig} {envs : Option Envs} {d : ServiceDescriptor}
    (resolved : ServiceDescriptor.resolve id modules config envs = .ok d) {sink : Sink}
    (linked : d.WellLinked e.control) (completes : d.Completes e.regime e.control sink) :
    (∃ handle, (e.register d sink).result = some (.ok handle)) ↔
      (∃ s, e.control.instantiate hostFunctions e.regime [] (Service.freshStore d sink) =
        .value 0 s) ∧
      ∀ md ∈ d.modules, ∀ m, Module.decode? md.bytes.bytes = some m → m.Admissible e.control := by
  obtain ⟨hdecode, bare⟩ := decode?_of_compile compiled
  have valid := Wasm.Module.valid_of_decode? hdecode
  have whole := Engine.compile_whole compiled
  have names := ServiceDescriptor.nodup_names resolved
  rw [register_ok_iff]
  constructor
  · rintro ⟨modules, s, registered⟩
    have stage := Composed.of_registerModules registered
    exact ⟨stage.starts, stage.admissible valid whole bare linked List.prefix_rfl⟩
  · rintro ⟨⟨s, starts⟩, admissible⟩
    obtain ⟨modules, s', hmodules⟩ := (Composed.control starts).succeeds valid whole bare
      (List.nil_append _) names linked completes admissible
    exact ⟨modules, s', gives_bind.2 ⟨0, s, gives_runOrRefuse.2 starts, hmodules⟩⟩

/-! ## Modules that stay idle -/

/-- Modules without segments and start function are instantiated wherever they are linked. -/
theorem ServiceDescriptor.completes_of_idle {regime : Regime} {control : Module}
    {d : ServiceDescriptor} {sink : Sink} (h : ∀ md ∈ d.modules,
      ∀ m ∈ Module.decode? md.bytes.bytes, m.elements = [] ∧ m.data = [] ∧ m.start = none) :
    d.Completes regime control sink := by
  intro before md after s earlier m parts hmodules stage hdecode functions s₁ hlink
  have hmd : md ∈ d.modules := by
    rw [hmodules]
    simp
  obtain ⟨helements, hdata, hstart⟩ := h md hmd m hdecode
  refine ⟨s₁.instances.length, m.allocate parts s₁, ?_⟩
  unfold Module.instantiate
  rw [helements, hdata, hstart]
  rfl

theorem ServiceDescriptor.wellLinked_of_take {control : Module} {d : ServiceDescriptor}
    (h : ∀ k < d.modules.length, ∀ md ∈ d.modules[k]?,
      md.WellLinked control (d.modules.take k)) : d.WellLinked control := by
  intro before md after hmodules
  have hlinked := h before.length (by simp [hmodules]) md (by simp [hmodules])
  rwa [hmodules, List.take_left] at hlinked

/-- An engine with a control module that exports nothing. -/
def blankEngine : Engine := { regime := {}, control := {} }

theorem Engine.register_iff_relayed :
    compile {} [0, 97, 115, 109, 1, 0, 0, 0] = .ok blankEngine ∧
      ServiceDescriptor.resolve "s" [("m", .owned Registry.echo), ("n", .owned relay)] none none =
        .ok relayed ∧
      relayed.WellLinked blankEngine.control ∧ relayed.Completes {} blankEngine.control .total ∧
      ∃ handle, (blankEngine.register relayed .total).result = some (.ok handle) := by
  have compiled : compile {} [0, 97, 115, 109, 1, 0, 0, 0] = .ok blankEngine := rfl
  have linked : relayed.WellLinked blankEngine.control :=
    ServiceDescriptor.wellLinked_of_take (by decide +kernel)
  have completes : relayed.Completes {} blankEngine.control .total :=
    ServiceDescriptor.completes_of_idle (by decide +kernel)
  refine ⟨compiled, resolve_relayed, linked, completes, ?_⟩
  have admissible : ∀ md ∈ relayed.modules, ∀ m ∈ Module.decode? md.bytes.bytes,
      m.Admissible blankEngine.control := by
    decide +kernel
  exact (register_iff compiled resolve_relayed linked completes).2 ⟨⟨_, rfl⟩, admissible⟩

/-! ## A function that is listed twice -/

/-- A module that imports the function `e` of a module `m` twice. -/
def twice : Bytes :=
  [0, 97, 115, 109, 1, 0, 0, 0, 1, 14, 2, 96, 1, 127, 1, 127, 96, 4, 127, 127, 127, 127, 1, 127,
    2, 13, 2, 1, 109, 1, 101, 0, 1, 1, 109, 1, 101, 0, 1, 3, 3, 2, 0, 1, 5, 3, 1, 0, 1, 6, 8, 1,
    127, 1, 65, 128, 192, 0, 11, 7, 25, 3, 6, 109, 101, 109, 111, 114, 121, 2, 0, 8, 97, 108,
    108, 111, 99, 97, 116, 101, 0, 2, 1, 102, 0, 3, 10, 26, 2, 11, 0, 35, 0, 35, 0, 32, 0, 106,
    36, 0, 11, 12, 0, 32, 0, 32, 1, 32, 2, 32, 3, 16, 1, 11, 0, 59, 15, 105, 110, 116, 101, 114,
    102, 97, 99, 101, 45, 116, 121, 112, 101, 115, 123, 34, 102, 117, 110, 99, 116, 105, 111,
    110, 115, 34, 58, 91, 123, 34, 110, 97, 109, 101, 34, 58, 34, 102, 34, 44, 34, 112, 97, 114,
    97, 109, 115, 34, 58, 91, 34, 97, 34, 93, 125, 93, 125]

/-- A service of that module behind one whose function `e` returns its arguments. -/
def repeating : ServiceDescriptor :=
  ⟨"s", [⟨"m", .owned Registry.echo, plainSettings⟩, ⟨"n", .owned twice, plainSettings⟩], none⟩

/-- A module that is linked well is refused because it lists a function of a sibling twice. -/
theorem Engine.repeated_import_refused :
    compile {} [0, 97, 115, 109, 1, 0, 0, 0] = .ok blankEngine ∧
      ServiceDescriptor.resolve "s" [("m", .owned Registry.echo), ("n", .owned twice)] none none =
        .ok repeating ∧
      repeating.WellLinked blankEngine.control ∧
      repeating.Completes {} blankEngine.control .total ∧
      (blankEngine.register repeating .total).result =
        some (.error (.registration "n" duplicateImport)) := by
  refine ⟨rfl, by decide +kernel, ServiceDescriptor.wellLinked_of_take (by decide +kernel),
    ServiceDescriptor.completes_of_idle (by decide +kernel), ?_⟩
  decide +kernel

end ModuleHost
