import ModuleHost.Proofs.Config.Names
import ModuleHost.Proofs.Engine.Layout

/-!
# Sibling calls go backwards

A module imports from modules before it. Its import is checked against the table of registered
modules; when guest code calls it, the instance is looked up by name in another table, which has
grown since. Both lead to the same instance.

* `Provides` — a module has its instance, and the instance exports a callable function;
* `Backwards` — the sibling calls that functions of a store make are provided for by modules before;
* `Imports` — and so are the imports that the files of modules list;
* `provides_of_checks` — what the checks of imports establish;
* **`Backwards.allocate`**, `Composed.backwards` — every stage of a registration has the property;
* `sibling_of_link`, `Composed.imported` — an import from a sibling becomes a call of it;
* `Composed.origin` — the instance of a module is what it was when the module was linked.
-/

namespace ModuleHost

open Wasm (Store Run Instance Extern Regime Module FunctionInstance)

/-- The module at position `behind` has its instance, which can be called and exports a callable
function. -/
structure Provides (done : List ModuleDescriptor) (s : Store guests) (behind : Nat)
    (module function : String) : Prop where
  named : ∃ md, done[behind]? = some md ∧ md.importName = module
  directory : s.data.directory.get? module = some (behind + 1)
  exported : ∃ target place, s.instances[behind + 1]? = some target ∧ Allocates s target ∧
    exportedFunction? target function = some place ∧ hasType s place callableType

namespace Provides

variable {done : List ModuleDescriptor} {s s' : Store guests} {behind : Nat}
  {module function : String}

theorem extend (h : Provides done s behind module function) (hs : Extends s s') :
    Provides done s' behind module function where
  named := h.named
  directory := by rw [hs.directory, h.directory]
  exported := by
    obtain ⟨target, place, htarget, allocates, hexport, htype⟩ := h.exported
    exact ⟨target, place, hs.getElem?_instances htarget, allocates.extend hs, hexport,
      hs.keepsType htype⟩

theorem lt (h : Provides done s behind module function) : behind < done.length := by
  obtain ⟨md, hmd, -⟩ := h.named
  exact (List.getElem?_eq_some_iff.1 hmd).1

theorem enter (h : Provides done s behind module function) {md : ModuleDescriptor}
    (fresh : md.importName ∉ done.map (·.importName)) (place : Nat) :
    Provides (done ++ [md]) (entered s md.importName place) behind module function where
  named := by
    obtain ⟨md', hmd', hname⟩ := h.named
    exact ⟨md', by rw [List.getElem?_append_left h.lt, hmd'], hname⟩
  directory := by
    have hne : module ≠ md.importName := by
      rintro rfl
      obtain ⟨md', hmd', hname⟩ := h.named
      exact fresh (List.mem_map.2 ⟨md', List.mem_of_getElem? hmd', hname⟩)
    rw [entered, Dict.get?_insert, if_neg hne, h.directory]
  exported := by
    obtain ⟨target, place', htarget, allocates, hexport, htype⟩ := h.exported
    exact ⟨target, place', htarget, ⟨allocates.memory, allocates.allocate⟩, hexport, htype⟩

end Provides

/-- The sibling calls that the functions of a store make are provided for by the modules `done`,
those of an instance by modules before it. -/
structure Backwards (done : List ModuleDescriptor) (s : Store guests) : Prop where
  calls : ∀ (home : Nat) inst place type module function, s.instances[home]? = some inst →
    place ∈ inst.functions → s.functions[place]? = some (.host type (.sibling module function)) →
      ∃ behind, behind + 1 < home ∧ Provides done s behind module function
  every : ∀ module function, CallsSibling s module function →
    ∃ behind, Provides done s behind module function

/-- The imports from siblings that the files of the modules `done` list are provided for by modules
before. -/
def Imports (done : List ModuleDescriptor) (s : Store guests) : Prop :=
  ∀ (position : Nat) md m i, done[position]? = some md → Module.decode? md.bytes.bytes = some m →
    i ∈ m.imports → isSiblingImport i →
      ∃ behind < position, Provides done s behind i.module i.name

section

variable {serviceId : String} {done : List ModuleDescriptor} {s s' : Store guests}
  {earlier : RegisteredModules}

/-- Over the same functions and instances, what is provided for may change its place. -/
theorem Backwards.imp (h : Backwards done s) {done' : List ModuleDescriptor}
    (instances : s'.instances = s.instances) (functions : s'.functions = s.functions)
    (imp : ∀ behind module function, Provides done s behind module function →
      Provides done' s' behind module function) : Backwards done' s' where
  calls home inst place type module function hinst hplace held := by
    rw [instances] at hinst
    rw [functions] at held
    obtain ⟨behind, hlt, provides⟩ := h.calls home inst place type module function hinst hplace held
    exact ⟨behind, hlt, imp behind module function provides⟩
  every module function held := by
    rw [CallsSibling, functions] at held
    obtain ⟨behind, provides⟩ := h.every module function held
    exact ⟨behind, imp behind module function provides⟩

theorem Backwards.evolve (h : Backwards done s) (hs : Evolves s s') : Backwards done s' :=
  h.imp hs.instances hs.functions fun _ _ _ provides => provides.extend hs.toExtends

theorem Backwards.enter (h : Backwards done s) {md : ModuleDescriptor}
    (fresh : md.importName ∉ done.map (·.importName)) (place : Nat) :
    Backwards (done ++ [md]) (entered s md.importName place) :=
  h.imp rfl rfl fun _ _ _ provides => provides.enter fresh place

theorem Backwards.wired (h : Backwards done s) : Wired s := by
  intro module function held
  obtain ⟨behind, provides⟩ := h.every module function held
  obtain ⟨target, -, htarget, -⟩ := provides.exported
  exact ⟨behind + 1, provides.directory, target, htarget⟩

/-- The checks of imports find what sibling calls will find. -/
theorem provides_of_checks (laid : Laid serviceId done s earlier)
    (sound : Service.Sound ⟨s, earlier⟩) {logger : Logger} {imports : List Wasm.Import}
    (hchecks : checkImports (logging s logger) earlier imports = .ok ()) {i : Wasm.Import}
    (hi : i ∈ imports) (hsibling : isSiblingImport i) :
    ∃ behind < done.length, Provides done s behind i.module i.name := by
  obtain ⟨sibling, hget, hcheck⟩ := checkImports_ok.1 hchecks i hi hsibling
  obtain ⟨-, target, place, htarget, hexport, htype⟩ := checkSiblingImport_ok.1 hcheck
  obtain ⟨behind, md, hmd, hname, hplace⟩ := laid.places i.module sibling hget
  obtain ⟨target', htarget', allocates⟩ := sound.instances i.module sibling hget
  have hdirectory : s.data.directory.get? i.module = some (behind + 1) := by
    have := sound.directory i.module
    rw [hget, Option.map_some, hplace] at this
    exact this
  change s.instances[sibling.place]? = some target at htarget
  change s.instances[sibling.place]? = some target' at htarget'
  obtain rfl : target' = target := by
    rw [htarget] at htarget'
    exact (Option.some.inj htarget').symm
  rw [hplace] at htarget
  exact ⟨behind, (List.getElem?_eq_some_iff.1 hmd).1, ⟨md, hmd, hname⟩, hdirectory, target', place,
    htarget, allocates, hexport, htype⟩

theorem sibling_of_importable {position : Nat} {imports : List Wasm.Import}
    {f : (String × String) × HostFunction} (hf : f ∈ importable position imports)
    {module function : String} (hsibling : f.2 = .sibling module function) :
    ∃ i ∈ imports, isSiblingImport i ∧ i.module = module ∧ i.name = function := by
  rcases List.mem_append.1 hf with hf | hf
  · rcases List.mem_cons.1 hf with rfl | hf
    · cases hsibling
    · cases List.mem_singleton.1 hf
      cases hsibling
  · obtain ⟨i, hi, rfl⟩ := List.mem_map.1 hf
    cases hsibling
    obtain ⟨hi, hsibling⟩ := List.mem_filter.1 hi
    exact ⟨i, hi, hsibling, rfl, rfl⟩

/-- **The sibling calls of a new module go backwards.** -/
theorem Backwards.allocate (h : Backwards done s) (laid : Laid serviceId done s earlier)
    (there : Inhabited s) (stacked : Stacked s) (sound : Service.Sound ⟨s, earlier⟩)
    {logger : Logger} {position : Nat} {m : Module} {parts : List Extern}
    (hchecks : checkImports (logging s logger) earlier m.imports = .ok ())
    (hlink : m.link? (offering s logger (importable position m.imports))
      (resolveImport (s.instances.getD 0 {}) (offered s (importable position m.imports))) =
        some parts) :
    Backwards done (m.allocate parts (offering s logger (importable position m.imports))) := by
  have provided : ∀ f ∈ importable position m.imports, ∀ module function,
      f.2 = .sibling module function →
        ∃ behind < done.length, Provides done s behind module function := by
    intro f hf module function hsibling
    obtain ⟨i, hi, hisibling, rfl, rfl⟩ := sibling_of_importable hf hsibling
    exact provides_of_checks laid sound hchecks hi hisibling
  generalize importable position m.imports = functions at *
  have grows := extends_linked s logger functions m parts
  constructor
  case calls =>
    intro home inst place type module function hinst hplace held
    cases function_of_allocate hlink stacked there hinst hplace held with
    | old hold held =>
      obtain ⟨behind, hlt, provides⟩ :=
        h.calls home inst place type module function hold hplace held
      exact ⟨behind, hlt, provides.extend grows⟩
    | offered last hmem =>
      obtain ⟨behind, hlt, provides⟩ := provided _ hmem module function rfl
      exact ⟨behind, by rw [last, laid.count]; omega, provides.extend grows⟩
    | control _ has held =>
      -- the control module calls no siblings
      obtain ⟨behind, hlt, -⟩ := h.calls 0 _ place type module function stacked.first has held
      omega
  case every =>
    rintro module function ⟨type, held⟩
    rcases List.mem_append.1 held with held | held
    · rcases List.mem_append.1 held with held | held
      · obtain ⟨behind, provides⟩ := h.every module function ⟨type, held⟩
        exact ⟨behind, provides.extend grows⟩
      · obtain ⟨f, hf, hfunction⟩ := List.mem_map.1 held
        rw [FunctionInstance.host.injEq] at hfunction
        obtain ⟨behind, -, provides⟩ := provided f hf module function hfunction.2
        exact ⟨behind, provides.extend grows⟩
    · obtain ⟨_, -, hguest⟩ := List.mem_map.1 held
      cases hguest

/-- A function that a new instance imports from a sibling calls the function of that name. -/
theorem sibling_of_link {logger : Logger} {position : Nat} {m : Module} {control : Instance}
    {parts : List Extern}
    (hlink : m.link? (offering s logger (importable position m.imports))
      (resolveImport control (offered s (importable position m.imports))) = some parts)
    {k : Nat} {i : Wasm.Import} (hi : m.functionImports[k]? = some i)
    (hsibling : isSiblingImport i) : ∃ place,
    let s₁ := offering s logger (importable position m.imports)
    (m.newInstance s₁ parts).functions[k]? = some place ∧
      (m.allocate parts s₁).functions[place]? =
        some (.host callableType (.sibling i.module i.name)) := by
  obtain ⟨place, hplace, hresolve, -⟩ := Wasm.function_of_link hlink hi
  have hnames : i.module ≠ hostNamespace ∧ i.module ≠ controlNamespace := by
    simpa [isSiblingImport] using hsibling
  rw [resolveImport, if_neg hnames.2] at hresolve
  obtain ⟨place', hlookup, hfunc⟩ := Option.map_eq_some_iff.1 hresolve
  cases hfunc
  obtain ⟨-, f, hf, hname, hoffered⟩ := getElem?_of_offered logger hlookup
  have hcloses : f.2 = .sibling i.module i.name := by
    rcases List.mem_append.1 hf with hf | hf
    · rcases List.mem_cons.1 hf with rfl | hf
      · exact absurd (congrArg Prod.fst hname) hnames.1.symm
      · cases List.mem_singleton.1 hf
        exact absurd (congrArg Prod.fst hname) hnames.1.symm
    · obtain ⟨j, -, rfl⟩ := List.mem_map.1 hf
      obtain ⟨hmodule, hfunction⟩ := Prod.mk.injEq .. ▸ hname
      exact congrArg₂ HostFunction.sibling hmodule hfunction
  rw [hcloses] at hoffered
  refine ⟨place, ?_, Module.functions_allocate hoffered⟩
  rw [← hplace]
  exact List.getElem?_append_left (List.getElem?_eq_some_iff.1 hplace).1

end

theorem nodup_names_concat {done : List ModuleDescriptor} {md : ModuleDescriptor} :
    ((done ++ [md]).map (·.importName)).Nodup ↔
      (done.map (·.importName)).Nodup ∧ md.importName ∉ done.map (·.importName) := by
  rw [List.map_append, List.map_singleton, ← List.concat_eq_append, List.nodup_concat, and_comm]

/-! ## Stages of a registration -/

namespace Composed

variable {regime : Regime} {control : Module} {d : ServiceDescriptor} {sink : Sink}
  {done : List ModuleDescriptor} {s : Store guests} {earlier : RegisteredModules}

theorem backwards_control (control : Module) (d : ServiceDescriptor) (sink : Sink) :
    Backwards [] (control.allocate [] (Service.freshStore d sink)) where
  calls home inst place type module function hinst hplace held := by
    obtain ⟨_, _, _, hguest⟩ := Module.guest_of_new (Nat.not_lt_zero place) held
    cases hguest
  every := by
    rintro module function ⟨type, held⟩
    obtain ⟨_, -, hguest⟩ := List.mem_map.1 held
    cases hguest

/-- **At every stage of a registration sibling calls go backwards**, and the imports of the modules
are provided for. -/
theorem backwards (h : Composed regime control d sink done s earlier) (whole : control.Whole)
    (names : (done.map (·.importName)).Nodup) : Backwards done s ∧ Imports done s := by
  induction h with
  | control ready =>
    have back := backwards_control control d sink
    refine ⟨back.evolve (back.wired.evolves_of_instantiate ready), fun position md m i hmd => ?_⟩
    cases hmd
  | @module done s s' earlier md entry before added ih =>
    obtain ⟨names, fresh⟩ := nodup_names_concat.1 names
    obtain ⟨back, imports⟩ := ih names
    obtain ⟨there, stacked⟩ := before.stacked whole
    have laid := before.laid whole
    obtain ⟨m, s₂, parts, a, hdecode, -, hchecks, -, hlink, hinstantiate, -, rfl⟩ :=
      addModule_gives.1 added
    have evolves := before.sound.evolves_of_instantiate hchecks hinstantiate
    have grows : Extends s s₂ := (extends_linked s _ _ m parts).trans evolves.toExtends
    -- the module has a name of its own, so that the names of siblings lead where they led
    have later : ∀ behind module function, Provides done s behind module function →
        Provides (done ++ [md]) (entered s₂ md.importName entry.place) behind module function :=
      fun _ _ _ provides => (provides.extend grows).enter fresh entry.place
    have back₂ : Backwards done s₂ :=
      (back.allocate laid there stacked before.sound hchecks hlink).evolve evolves
    refine ⟨back₂.enter fresh entry.place, ?_⟩
    intro position md' m' i hmd' hdecode' hi hsibling
    rcases Wasm.getElem?_concat_cases hmd' with hold | ⟨rfl, rfl⟩
    · obtain ⟨behind, hbehind, provides⟩ := imports position md' m' i hold hdecode' hi hsibling
      exact ⟨behind, hbehind, later _ _ _ provides⟩
    · -- the module that was added last
      obtain rfl : m = m' := Option.some.inj (hdecode.symm.trans hdecode')
      obtain ⟨behind, hbehind, provides⟩ := provides_of_checks laid before.sound hchecks hi hsibling
      exact ⟨behind, hbehind, later _ _ _ provides⟩

/-- The instance of a module is what it was when the module was linked. -/
theorem origin (h : Composed regime control d sink done s earlier) (whole : control.Whole)
    {position : Nat} {md : ModuleDescriptor} (hmd : done[position]? = some md) {m : Module}
    (hdecode : Module.decode? md.bytes.bytes = some m) :
    ∃ (s₀ : Store guests) (parts : List Extern),
      let s₁ := offering s₀ (md.logger d.serviceId) (importable position m.imports)
      m.link? s₁ (resolveImport (s₀.instances.getD 0 {})
        (offered s₀ (importable position m.imports))) = some parts ∧
      s.instances[position + 1]? = some (m.newInstance s₁ parts) ∧
      (m.allocate parts s₁).functions <+: s.functions := by
  induction h with
  | control => cases hmd
  | @module done s s' earlier md' entry before added ih =>
    obtain ⟨m', s₂, parts, a, hdecode', -, hchecks, -, hlink, hinstantiate, -, rfl⟩ :=
      addModule_gives.1 added
    have laid := before.laid whole
    have evolves := before.sound.evolves_of_instantiate hchecks hinstantiate
    rcases Wasm.getElem?_concat_cases hmd with hold | ⟨rfl, rfl⟩
    · obtain ⟨s₀, parts₀, hlink₀, hinst, hfunctions⟩ := ih hold
      have grows : Extends s s₂ := (extends_linked s _ _ m' parts).trans evolves.toExtends
      exact ⟨s₀, parts₀, hlink₀, grows.getElem?_instances hinst,
        hfunctions.trans grows.functions⟩
    · obtain rfl : m' = m := Option.some.inj (hdecode'.symm.trans hdecode)
      rw [laid.loggers, List.length_map] at hlink evolves
      refine ⟨s, parts, hlink, ?_, ?_⟩
      · show s₂.instances[done.length + 1]? = _
        rw [evolves.instances, ← laid.count]
        exact List.getElem?_concat_length
      · show _ <+: s₂.functions
        exact evolves.functions ▸ List.prefix_rfl

/-- A function that a module imports from a sibling calls the function of that name. -/
theorem imported (h : Composed regime control d sink done s earlier) (whole : control.Whole)
    {position : Nat} {md : ModuleDescriptor} (hmd : done[position]? = some md) {m : Module}
    (hdecode : Module.decode? md.bytes.bytes = some m) {k : Nat} {i : Wasm.Import}
    (hi : m.functionImports[k]? = some i) (hsibling : isSiblingImport i) :
    ∃ inst place, s.instances[position + 1]? = some inst ∧ inst.functions[k]? = some place ∧
      s.functions[place]? = some (.host callableType (.sibling i.module i.name)) := by
  obtain ⟨s₀, parts, hlink, hinst, more, hmore⟩ := h.origin whole hmd hdecode
  obtain ⟨place, hplace, hfunction⟩ := sibling_of_link hlink hi hsibling
  refine ⟨_, place, hinst, hplace, ?_⟩
  rw [← hmore, List.getElem?_append_left (List.getElem?_eq_some_iff.1 hfunction).1]
  exact hfunction

/-- The module at a position has the instance behind as many others. -/
theorem placed (h : Composed regime control d sink done s earlier) (whole : control.Whole)
    (names : (done.map (·.importName)).Nodup) {position : Nat} {md : ModuleDescriptor}
    (hmd : done[position]? = some md) :
    ∃ m, earlier.get? md.importName = some m ∧ m.place = position + 1 := by
  induction h with
  | control => cases hmd
  | @module done s s' earlier md' entry before added ih =>
    obtain ⟨names, fresh⟩ := nodup_names_concat.1 names
    rcases Wasm.getElem?_concat_cases hmd with hold | ⟨rfl, rfl⟩
    · obtain ⟨m, hm, hplace⟩ := ih names hold
      have hne : md.importName ≠ md'.importName := by
        intro heq
        exact fresh (heq ▸ List.mem_map.2 ⟨md, List.mem_of_getElem? hold, rfl⟩)
      exact ⟨m, by rw [Dict.get?_insert, if_neg hne, hm], hplace⟩
    · obtain ⟨m, s₂, parts, a, -, -, -, -, -, hinstantiate, -, rfl⟩ := addModule_gives.1 added
      have hplace := Wasm.instantiate_value hinstantiate
      exact ⟨entry, by rw [Dict.get?_insert, if_pos rfl], hplace.trans (before.laid whole).count⟩

end Composed

end ModuleHost
