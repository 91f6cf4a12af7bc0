import ModuleHost.Proofs.Engine.Registration

/-!
# Instances of one store

The first instance of a store is that of the control module. The instances behind it share with one
another what the first one exports and nothing else.

* `getElem?_of_offered`, `part_of_import` — what a name leads to when a module is linked;
* `Inhabited`, `Stacked` — the parts of instances are there; instances share what the first exports;
* `globals_of_instantiate` — guest code leaves the types of globals as they were;
* `function_of_allocate` — where the functions of an instance are from;
* `Stacked.allocate` — a new instance keeps to itself what it adds;
* **`Composed.stacked`**: so the instances of a service share only what the control module exports.
-/

namespace ModuleHost

open Wasm (Store Run Instance Extern Regime Module FunctionInstance)

/-! ## Names -/

theorem getElem?_of_offered {s : Store guests} (logger : Logger)
    {functions : List ((String × String) × HostFunction)} {name : String × String} {place : Nat}
    (h : (offered s functions).lookup name = some place) :
    s.functions.length ≤ place ∧ ∃ f ∈ functions, f.1 = name ∧
      (offering s logger functions).functions[place]? = some (.host f.2.type f.2) := by
  obtain ⟨_, _, hlookup, -⟩ := List.lookup_eq_some_iff.1 h
  have hmem : (name, place) ∈ offered s functions := by
    rw [hlookup]
    simp
  obtain ⟨k, hk⟩ := List.mem_iff_getElem?.1 hmem
  obtain ⟨hname, hplace⟩ := List.getElem?_zip_eq_some.1 hk
  obtain ⟨f, hf, rfl⟩ := Option.map_eq_some_iff.1 (List.getElem?_map .. ▸ hname)
  have hk : k < functions.length := (List.getElem?_eq_some_iff.1 hf).1
  obtain rfl : s.functions.length + k = place := by
    simpa [Wasm.newPlaces, hk] using hplace
  refine ⟨Nat.le_add_right _ _, f, List.mem_of_getElem? hf, rfl, ?_⟩
  show (s.functions ++ functions.map fun f => .host f.2.type f.2)[s.functions.length + k]? = _
  rw [Wasm.getElem?_append_behind, List.getElem?_map, hf]
  rfl

/-- An import names a function that is offered, or an export of the control module. -/
theorem part_of_import {s : Store guests} (logger : Logger) {control : Instance}
    {functions : List ((String × String) × HostFunction)} {i : Wasm.Import} {part : Extern}
    (h : resolveImport control (offered s functions) i = some part) :
    (∃ place, part = .func place ∧ s.functions.length ≤ place ∧
      ∃ f ∈ functions, f.1 = (i.module, i.name) ∧
        (offering s logger functions).functions[place]? = some (.host f.2.type f.2)) ∨
      control.export? i.name = some part := by
  unfold resolveImport at h
  split at h
  · exact .inr h
  · obtain ⟨place, hlookup, rfl⟩ := Option.map_eq_some_iff.1 h
    obtain ⟨hplace, hoffered⟩ := getElem?_of_offered logger hlookup
    exact .inl ⟨place, rfl, hplace, hoffered⟩

/-! ## What instances share -/

/-- The parts of the instances of a store are there. -/
def Inhabited (s : Store guests) : Prop :=
  ∀ (home : Nat) inst part, s.instances[home]? = some inst → inst.Has part → s.Holds part

/-- The instances of a store share only what the first one exports. -/
structure Stacked (s : Store guests) : Prop where
  nonempty : 0 < s.instances.length
  exports : ∀ (home : Nat) inst name part, s.instances[home]? = some inst →
    inst.export? name = some part → inst.Has part
  shared : ∀ (home home' : Nat) inst inst' part, home < home' → s.instances[home]? = some inst →
    s.instances[home']? = some inst' → inst.Has part → inst'.Has part →
      ∃ name, (s.instances.getD 0 {}).export? name = some part
  /-- The code of the functions of an instance is its own, or that of the first one. -/
  code : ∀ (home : Nat) inst place type origin code kept, s.instances[home]? = some inst →
    place ∈ inst.functions → s.functions[place]? = some (.guest type origin code kept) →
      origin = home ∨ origin = 0

/-- How an instance came by a function: both were there, or the instance is the last one and the
function is one that was offered for it, one of the control module, or its own code. -/
inductive FunctionOrigin (s : Store guests) (functions : List ((String × String) × HostFunction))
    (home : Nat) (inst : Instance) (place : Nat) : FunctionInstance guests → Prop
  | old {f : FunctionInstance guests} (hinst : s.instances[home]? = some inst)
      (held : s.functions[place]? = some f) : FunctionOrigin s functions home inst place f
  | offered {name : String × String} {function : HostFunction} (last : home = s.instances.length)
      (hmem : (name, function) ∈ functions) :
      FunctionOrigin s functions home inst place (.host function.type function)
  | control {f : FunctionInstance guests} (last : home = s.instances.length)
      (has : place ∈ (s.instances.getD 0 {}).functions) (held : s.functions[place]? = some f) :
      FunctionOrigin s functions home inst place f
  | own {type : Wasm.FuncType} {code : Wasm.Function} {kept : Nat}
      (last : home = s.instances.length) :
      FunctionOrigin s functions home inst place (.guest type home code kept)

/-! ## Guest code -/

/-- What guest code cannot change of a global stays. -/
theorem globals_invariant {α : Type} {f : Wasm.Global → α}
    (hf : ∀ g w, f { g with value := w } = f g) (kept : List α) :
    GuestInvariant (fun s : Store guests => s.globals.map f = kept) fun _ => True := by
  refine {
    steady := ⟨fun _ _ _ _ hs _ _ => hs, fun s place g w hs hg => ?_⟩
    lenient := ⟨trivial, trivial, trivial⟩
    broken := trivial
    plain := fun _ _ => trivial
    records := fun _ _ hs => hs
    free := fun _ _ _ hs => hs
    parameters := fun _ _ _ hs' => hs'
    sibling := fun _ _ _ hs _ => hs
    missing := fun _ _ _ _ _ _ => trivial
    failed := fun _ _ _ _ _ _ _ => trivial }
  have hkept : (s.globals.map f)[place]? = some (f g) := by
    rw [List.getElem?_map, hg, Option.map_some]
  show (s.globals.set place { g with value := w }).map f = kept
  rw [List.map_set, hf, ← hs]
  obtain ⟨hlt, heq⟩ := List.getElem?_eq_some_iff.1 hkept
  rw [← heq]
  exact List.set_getElem_self hlt

section

variable {regime : Regime} {m : Module} {parts : List Extern} {s s' : Store guests} {place : Nat}
  (h : m.instantiate hostFunctions regime parts s = .value place s')

include h

theorem globals_of_instantiate :
    s'.globals.map (·.type) = (m.allocate parts s).globals.map (·.type) := by
  have within := (globals_invariant (f := (·.type)) (fun _ _ => rfl) _).rules.within_instantiate
    regime (rfl : (m.allocate parts s).globals.map (·.type) = _)
  rw [h] at within
  exact within

theorem targets_of_instantiate :
    s'.globals.map (·.target) = (m.allocate parts s).globals.map (·.target) := by
  have within := (globals_invariant (f := (·.target)) (fun _ _ => rfl) _).rules.within_instantiate
    regime (rfl : (m.allocate parts s).globals.map (·.target) = _)
  rw [h] at within
  exact within

end

/-! ## Evolution -/

section

variable {s s' : Store guests}

theorem Evolves.holds (hs : Evolves s s')
    (globals : s'.globals.map (·.type) = s.globals.map (·.type)) (part : Extern) :
    s'.Holds part ↔ s.Holds part := by
  have hglobals : s'.globals.length = s.globals.length := by
    have := congrArg List.length globals
    simpa using this
  cases part with
  | func => rw [Store.Holds, Store.Holds, hs.functions]
  | table => rw [Store.Holds, Store.Holds, hs.tables]
  | memory => rw [Store.Holds, Store.Holds, hs.memory_count]
  | global => rw [Store.Holds, Store.Holds, hglobals]

theorem Inhabited.evolve (h : Inhabited s) (hs : Evolves s s')
    (globals : s'.globals.map (·.type) = s.globals.map (·.type)) : Inhabited s' := by
  intro home inst part hinst hpart
  rw [hs.instances] at hinst
  exact (hs.holds globals part).2 (h home inst part hinst hpart)

theorem Stacked.evolve (h : Stacked s) (hs : Evolves s s') : Stacked s' where
  nonempty := by rw [hs.instances]; exact h.nonempty
  exports := by rw [hs.instances]; exact h.exports
  shared := by rw [hs.instances]; exact h.shared
  code := by rw [hs.instances, hs.functions]; exact h.code

end

/-! ## A new instance -/

theorem Stacked.first {s : Store guests} (h : Stacked s) :
    s.instances[0]? = some (s.instances.getD 0 {}) := by
  rw [List.getD_eq_getElem?_getD, List.getElem?_eq_getElem h.nonempty, Option.getD_some]

theorem Stacked.shared_of_ne {s : Store guests} (h : Stacked s) {i j : Nat} (hne : i ≠ j)
    {inst inst' : Instance} {part : Extern} (hinst : s.instances[i]? = some inst)
    (hinst' : s.instances[j]? = some inst') (hpart : inst.Has part) (hpart' : inst'.Has part) :
    ∃ name, (s.instances.getD 0 {}).export? name = some part := by
  rcases Nat.lt_or_gt_of_ne hne with hlt | hlt
  · exact h.shared i j inst inst' part hlt hinst hinst' hpart hpart'
  · exact h.shared j i inst' inst part hlt hinst' hinst hpart' hpart

theorem holds_offering {s : Store guests} (logger : Logger)
    (functions : List ((String × String) × HostFunction)) {part : Extern} (h : s.Holds part) :
    (offering s logger functions).Holds part := by
  cases part with
  | func place =>
    show place < (s.functions ++ _).length
    rw [List.length_append]
    exact Nat.lt_add_right _ h
  | table | memory | global => exact h

theorem first_allocate {s : Store guests} (nonempty : 0 < s.instances.length) (m : Module)
    (parts : List Extern) :
    (m.allocate parts s).instances.getD 0 {} = s.instances.getD 0 {} := by
  show (s.instances ++ _).getD 0 {} = _
  rw [List.getD_eq_getElem?_getD, List.getElem?_append_left nonempty, List.getD_eq_getElem?_getD]

section

variable {s : Store guests} {m : Module} {parts : List Extern} {logger : Logger}
  {functions : List ((String × String) × HostFunction)}
  (whole : m.Whole)
  (hlink : m.link? (offering s logger functions)
    (resolveImport (s.instances.getD 0 {}) (offered s functions)) = some parts)

include whole hlink

theorem Inhabited.allocate (there : Inhabited s) :
    Inhabited (m.allocate parts (offering s logger functions)) := by
  intro home inst part hinst hpart
  rcases Module.instances_allocate hinst with hold | ⟨-, rfl⟩
  · have hholds : s.Holds part := there home inst part hold hpart
    exact Module.holds_allocate part (holds_offering logger functions hholds)
  · exact Module.holds_newInstance whole (fun _ => Wasm.holds_of_link hlink) part hpart

omit whole in
/-- A part that a new instance imports is a function offered for it, or the control module exports
it. -/
theorem part_of_link {part : Extern} (hpart : part ∈ parts) :
    (∃ place, part = .func place ∧ s.functions.length ≤ place ∧ ∃ i ∈ m.imports,
      ∃ f ∈ functions, f.1 = (i.module, i.name) ∧
        (offering s logger functions).functions[place]? = some (.host f.2.type f.2)) ∨
      ∃ name, (s.instances.getD 0 {}).export? name = some part := by
  obtain ⟨i, hi, hresolve, -⟩ := Wasm.import_of_link hlink hpart
  rcases part_of_import logger hresolve with
    ⟨place, rfl, hplace, f, hf, hname, hfunction⟩ | hexport
  · exact .inl ⟨place, rfl, hplace, i, hi, f, hf, hname, hfunction⟩
  · exact .inr ⟨i.name, hexport⟩

omit whole in
/-- A function of an instance, once the next module is allocated, was there, or the new instance got
it in one of three ways. -/
theorem function_of_allocate (h : Stacked s) (there : Inhabited s) {home place : Nat}
    {inst : Instance} {f : FunctionInstance guests}
    (hinst : (m.allocate parts (offering s logger functions)).instances[home]? = some inst)
    (hplace : place ∈ inst.functions)
    (held : (m.allocate parts (offering s logger functions)).functions[place]? = some f) :
    FunctionOrigin s functions home inst place f := by
  -- a function of an older instance was there, since functions are only added behind
  have before : ∀ (old : Nat) i, s.instances[old]? = some i → place ∈ i.functions →
      s.functions[place]? = some f := by
    intro old i hi hmem
    have hlt : place < s.functions.length := there old i (.func place) hi hmem
    have hkept := (extends_linked s logger functions m parts).getElem?_functions
      (List.getElem?_eq_getElem hlt)
    rw [List.getElem?_eq_getElem hlt, ← hkept, held]
  rcases Module.instances_allocate hinst with hold | ⟨hhome, rfl⟩
  · exact .old hold (before home inst hold hplace)
  · rcases (Module.has_newInstance (.func place)).1 hplace with himport | hadded
    · rcases part_of_link hlink himport with
        ⟨_, hfunc, -, -, -, g, hg, -, hoffered⟩ | ⟨name, hexport⟩
      · cases hfunc
        rw [Module.functions_allocate hoffered] at held
        cases held
        exact .offered hhome hg
      · have hhas := h.exports 0 _ name _ h.first hexport
        exact .control hhome hhas (before 0 _ h.first hhas)
    · obtain ⟨type, code, kept, rfl⟩ := Module.guest_of_new
        (Module.not_holds_of_adds (.func place) hadded) held
      subst hhome
      exact .own rfl

omit whole in
/-- **A new instance keeps to itself what it adds.** -/
theorem Stacked.allocate (h : Stacked s) (there : Inhabited s) :
    Stacked (m.allocate parts (offering s logger functions)) := by
  have hfirst : (m.allocate parts (offering s logger functions)).instances.getD 0 {} =
      s.instances.getD 0 {} :=
    first_allocate (s := offering s logger functions) h.nonempty m parts
  constructor
  case nonempty =>
    show 0 < (s.instances ++ [m.newInstance _ parts]).length
    simp
  case exports =>
    intro home inst name part hinst hexport
    rcases Module.instances_allocate hinst with hold | ⟨-, rfl⟩
    · exact h.exports home inst name part hold hexport
    · exact Module.has_of_export hexport
  case shared =>
    intro home home' inst inst' part hlt hinst hinst' hpart hpart'
    rw [hfirst]
    rcases Module.instances_allocate hinst with hold | ⟨hhome, -⟩
    · rcases Module.instances_allocate hinst' with hold' | ⟨-, rfl⟩
      · exact h.shared home home' inst inst' part hlt hold hold' hpart hpart'
      · -- the older instance has the part, so that it was there before
        have hholds : s.Holds part := there home inst part hold hpart
        rcases (Module.has_newInstance part).1 hpart' with himport | hadded
        · rcases part_of_link hlink himport with ⟨place, rfl, hplace, -⟩ | hexport
          · exact absurd hholds (Nat.not_lt_of_le hplace)
          · exact hexport
        · exact absurd (holds_offering logger functions hholds)
            (Module.not_holds_of_adds part hadded)
    · -- no instance stands behind the new one
      have hbound := (List.getElem?_eq_some_iff.1 hinst').1
      rw [Module.allocate, List.length_append, List.length_singleton, ← hhome] at hbound
      omega
  case code =>
    intro home inst place type origin code kept hinst hplace hcode
    cases function_of_allocate hlink h there hinst hplace hcode with
    | old hold held => exact h.code home inst place type origin code kept hold hplace held
    | control _ has held =>
      exact .inr (or_self_iff.1 (h.code 0 _ place type origin code kept h.first has held))
    | own => exact .inl rfl

end

/-! ## Stages of a registration -/

namespace Composed

variable {regime : Regime} {control : Module} {d : ServiceDescriptor} {sink : Sink}
  {done : List ModuleDescriptor} {s : Store guests} {earlier : RegisteredModules}

/-- The first instance is that of the control module, which brings everything that it has. -/
theorem stacked_control (whole : control.Whole) :
    Inhabited (control.allocate [] (Service.freshStore d sink)) ∧
      Stacked (control.allocate [] (Service.freshStore d sink)) := by
  have hcases : ∀ (home : Nat) inst,
      (control.allocate [] (Service.freshStore d sink)).instances[home]? = some inst →
        home = 0 ∧ inst = control.newInstance (Service.freshStore d sink) [] := by
    intro home inst hinst
    rcases Module.instances_allocate hinst with hold | hnew
    · cases hold
    · exact hnew
  refine ⟨fun home inst part hinst hpart => ?_, ?_⟩
  · obtain ⟨-, rfl⟩ := hcases home inst hinst
    exact Module.holds_newInstance whole (fun _ h => absurd h List.not_mem_nil) part hpart
  · constructor
    case nonempty => exact Nat.zero_lt_one
    case exports =>
      intro home inst name part hinst hexport
      obtain ⟨-, rfl⟩ := hcases home inst hinst
      exact Module.has_of_export hexport
    case shared =>
      intro home home' inst inst' part hlt hinst hinst'
      have hzero' := (hcases home' inst' hinst').1
      omega
    case code =>
      intro home inst place type origin code kept hinst hplace hcode
      obtain ⟨_, _, _, hguest⟩ := Module.guest_of_new (Nat.not_lt_zero place) hcode
      cases hguest
      exact .inr rfl

/-- **The instances of a service share only what the control module exports.** -/
theorem stacked (h : Composed regime control d sink done s earlier) (whole : control.Whole) :
    Inhabited s ∧ Stacked s := by
  induction h with
  | control ready =>
    obtain ⟨there, stacked⟩ := stacked_control whole
    have wired : Wired (control.allocate [] (Service.freshStore d sink)) :=
      Wired.allocate (fun _ _ ⟨_, held⟩ => nomatch held) control []
    have evolves := wired.evolves_of_instantiate ready
    exact ⟨there.evolve evolves (globals_of_instantiate ready), stacked.evolve evolves⟩
  | module before added ih =>
    obtain ⟨there, stacked⟩ := ih
    obtain ⟨m, s₂, parts, a, hdecode, -, hchecks, -, hlink, hinstantiate, -, rfl⟩ :=
      addModule_gives.1 added
    have whole := Wasm.Module.whole_of_decode? hdecode
    have evolves := before.sound.evolves_of_instantiate hchecks hinstantiate
    have globals := globals_of_instantiate hinstantiate
    -- allocating keeps both, and a start function leaves instances and functions as they are
    have there₂ : Inhabited s₂ := (there.allocate whole hlink).evolve evolves globals
    have stacked₂ : Stacked s₂ := (stacked.allocate hlink there).evolve evolves
    exact ⟨there₂, { stacked₂ with }⟩

end Composed

end ModuleHost
