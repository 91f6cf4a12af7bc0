import ModuleHost.Proofs.Engine.Layout

/-!
# Tables that modules share

Every module can import the tables that the control module exports, put functions there and call
those that it finds. So code may reach functions of modules behind its own. It does not if one of
the two modules is secluded: if nothing that it imports lets a reference pass.

* `Module.isSecluded`, `secludes` — no reference passes between a module and others;
* `Secluded` — an instance has no table that the control module exports;
* `Aimed`, `Supplied` — globals and tables hold functions of instances that have them, or of the
  control module;
* **`Supplied.reached`**: where the functions are from that code reaches;
* `Supplied.allocate`, `Composed.supplied` — every stage of a registration has the property;
* `Secluded.allocate`, `Composed.secluded` — the instances of secluded modules share no table;
* `Guarded`, **`Guarded.reached`** — so code reaches functions of another module only if neither of
  the two is secluded.
-/

namespace ModuleHost

open Wasm (Store Instance Extern Module Regime)
open Registering

/-! ## Modules -/

/-- Whether no reference passes between a module and others: it imports no table, and no global or
function of which a reference is a part. -/
def Wasm.Module.isSecluded (m : Module) : Bool :=
  m.imports.all fun i => match i.type with
    | .table _ => false
    | .global t => t.type.isNumber
    | .func type => m.types[type]?.all fun t => (t.params ++ t.results).all (·.isNumber)
    | .memory _ | .tag _ => true

/-- Whether the file of a module is one of a secluded module. -/
def ModuleDescriptor.isSecluded (md : ModuleDescriptor) : Bool :=
  (Module.decode? md.bytes.bytes).any (·.isSecluded)

/-- Whether the instance at a place is that of a secluded module. The first one is that of the
control module, from which others import. -/
def secludes (modules : List ModuleDescriptor) : Nat → Bool
  | 0 => false
  | position + 1 => modules[position]?.any (·.isSecluded)

theorem secludes_concat {done : List ModuleDescriptor} {md : ModuleDescriptor} {home : Nat}
    (h : secludes (done ++ [md]) home) :
    secludes done home ∨ home = done.length + 1 ∧ md.isSecluded := by
  cases home with
  | zero => cases h
  | succ position =>
    obtain ⟨md', hmd', hsecluded⟩ := (Option.any_eq_true _ _).1 h
    rcases Wasm.getElem?_concat_cases hmd' with hold | ⟨rfl, rfl⟩
    · exact .inl ((Option.any_eq_true _ _).2 ⟨md', hold, hsecluded⟩)
    · exact .inr ⟨rfl, hsecluded⟩

theorem secludes_of_prefix {done modules : List ModuleDescriptor} (h : done <+: modules)
    {home : Nat} (hle : home ≤ done.length) : secludes done home = secludes modules home := by
  cases home with
  | zero => rfl
  | succ position =>
    obtain ⟨rest, rfl⟩ := h
    rw [secludes, secludes, List.getElem?_append_left hle]

theorem lt_of_secludes {modules : List ModuleDescriptor} {home : Nat} (h : secludes modules home) :
    home < modules.length + 1 := by
  cases home with
  | zero => cases h
  | succ position =>
    obtain ⟨md, hmd, -⟩ := (Option.any_eq_true _ _).1 h
    exact Nat.succ_lt_succ (List.getElem?_eq_some_iff.1 hmd).1

/-! ## Instances -/

/-- The instance at a place has no table that the control module exports. -/
def Secluded (s : Store guests) (home : Nat) : Prop :=
  ∀ inst i name, s.instances[home]? = some inst → i ∈ inst.tables →
    (s.instances.getD 0 {}).export? name ≠ some (.table i)

/-- What an instance can name is a function of its own or one of the control module. -/
def Aimed (s : Store guests) : Prop :=
  ∀ (home : Nat) inst place, s.instances[home]? = some inst → inst.Names s place →
    place ∈ inst.functions ∨ place ∈ (s.instances.getD 0 {}).functions

/-- A function in a table was put there by an instance that has the table, and it is one of its own
or one of the control module. -/
def Supplied (s : Store guests) : Prop :=
  ∀ (i : Nat) t place, s.tables[i]? = some t → t.Has place →
    ∃ (home : Nat) (inst : Instance), s.instances[home]? = some inst ∧ i ∈ inst.tables ∧
      (place ∈ inst.functions ∨ place ∈ (s.instances.getD 0 {}).functions)

section

variable {s s' : Store guests}

/-- **Code reaches functions of its own instance and of the control module**, and one of another
instance only if neither of the two is secluded. -/
theorem Supplied.reached (h : Supplied s) (stacked : Stacked s) {home place : Nat}
    {inst : Instance} (hinst : s.instances[home]? = some inst) (reached : s.Reaches inst place) :
    ∃ (origin : Nat) (inst' : Instance), s.instances[origin]? = some inst' ∧
      place ∈ inst'.functions ∧
      (origin = home ∨ origin = 0 ∨ ¬ Secluded s home ∧ ¬ Secluded s origin) := by
  rcases reached with hplace | ⟨i, hi, t, ht, has⟩
  · exact ⟨home, inst, hinst, hplace, .inl rfl⟩
  · obtain ⟨origin, inst', hinst', hi', hplace | hplace⟩ := h i t place ht has
    · refine ⟨origin, inst', hinst', hplace, ?_⟩
      by_cases heq : origin = home
      · exact .inl heq
      · have has : inst.Has (.table i) := hi
        have has' : inst'.Has (.table i) := hi'
        obtain ⟨name, hexport⟩ := stacked.shared_of_ne heq hinst' hinst has' has
        exact .inr (.inr ⟨fun secluded => secluded inst i name hinst hi hexport,
          fun secluded => secluded inst' i name hinst' hi' hexport⟩)
    · exact ⟨0, _, stacked.first, hplace, .inr (.inl rfl)⟩

/-! ## Calls -/

theorem Supplied.evolve (h : Supplied s) (hs : Evolves s s') : Supplied s' := by
  unfold Supplied
  rw [hs.tables, hs.instances]
  exact h

theorem Secluded.evolve {home : Nat} (h : Secluded s home) (hs : Evolves s s') :
    Secluded s' home := by
  unfold Secluded
  rw [hs.instances]
  exact h

theorem Aimed.of_targets (h : Aimed s) (instances : s'.instances = s.instances)
    (targets : s'.globals.map (·.target) = s.globals.map (·.target)) : Aimed s' := by
  intro home inst place hinst names
  rw [instances] at hinst ⊢
  refine h home inst place hinst (names.imp_right ?_)
  rintro ⟨i, hi, global, hglobal, htarget⟩
  have hkept : (s.globals.map (·.target))[i]? = some (some place) := by
    rw [← targets, List.getElem?_map, hglobal, Option.map_some, htarget]
  rw [List.getElem?_map] at hkept
  obtain ⟨global', hglobal', htarget'⟩ := Option.map_eq_some_iff.1 hkept
  exact ⟨i, hi, global', hglobal', htarget'⟩

/-! ## A new instance -/

theorem Aimed.first (h : Aimed s) {place : Nat} (names : (s.instances.getD 0 {}).Names s place) :
    place ∈ (s.instances.getD 0 {}).functions := by
  cases hinstances : s.instances with
  | nil =>
    rw [hinstances] at names
    exact names.elim nofun fun ⟨_, hi, _⟩ => nomatch hi
  | cons inst rest =>
    have hfirst := h 0 inst place (by rw [hinstances]; rfl)
    rw [hinstances] at hfirst names
    exact or_self_iff.1 (hfirst names)

variable {m : Module} {parts : List Extern}

theorem mem_first_allocate {place : Nat} (h : place ∈ (s.instances.getD 0 {}).functions) :
    place ∈ ((m.allocate parts s).instances.getD 0 {}).functions := by
  cases hinstances : s.instances with
  | nil =>
    rw [hinstances] at h
    cases h
  | cons inst rest => rwa [first_allocate (by rw [hinstances]; exact Nat.zero_lt_succ _)]

/-- What a module imports beside functions, the control module has. -/
def Borrows (s : Store guests) (parts : List Extern) : Prop :=
  ∀ part ∈ parts, (∃ place, part = .func place) ∨ (s.instances.getD 0 {}).Has part

variable (there : Inhabited s) (borrows : Borrows s parts)

include borrows in
/-- A new instance can name its own functions and those of the control module. -/
theorem Aimed.names_newInstance (h : Aimed s) {place : Nat}
    (names : (m.newInstance s parts).Names s place) :
    place ∈ (m.newInstance s parts).functions ∨ place ∈ (s.instances.getD 0 {}).functions := by
  rcases names with hplace | ⟨i, hi, global, hglobal, htarget⟩
  · exact .inl hplace
  · -- the global was there, so that it is imported
    rcases (Module.has_newInstance (.global i)).1 hi with hpart | hadds
    · obtain ⟨_, hfunc⟩ | has := borrows _ hpart
      · cases hfunc
      · exact .inr (h.first (.inr ⟨i, has, global, hglobal, htarget⟩))
    · exact absurd (List.getElem?_eq_some_iff.1 hglobal).1 (Module.not_holds_of_adds _ hadds)

include borrows

/-- **What a new instance puts into tables is its own or from the control module.** -/
theorem Supplied.allocate (h : Supplied s) (aimed : Aimed s) : Supplied (m.allocate parts s) := by
  intro i t place ht has
  obtain ⟨old, hold, fed⟩ := Module.fed_of_newTables ht
  rcases fed.holds place has with hasOld | ⟨hi, names⟩
  · rcases Wasm.getElem?_append_cases hold with hold | hnew
    · obtain ⟨home, inst, hinst, hi, hplace⟩ := h i old place hold hasOld
      exact ⟨home, inst, Wasm.getElem?_append_of_some hinst, hi,
        hplace.imp_right mem_first_allocate⟩
    · obtain ⟨type, -, rfl⟩ := List.mem_map.1 hnew
      exact absurd hasOld Module.not_has_of_new
  · exact ⟨s.instances.length, m.newInstance s parts, List.getElem?_concat_length, hi,
      (aimed.names_newInstance borrows names).imp_right mem_first_allocate⟩

include there

theorem Aimed.allocate (h : Aimed s) : Aimed (m.allocate parts s) := by
  intro home inst place hinst names
  rcases Module.instances_allocate hinst with hold | ⟨-, rfl⟩
  · -- an older instance has the globals that it had
    refine (h home inst place hold (names.imp_right ?_)).imp_right mem_first_allocate
    rintro ⟨i, hi, global, hglobal, htarget⟩
    have hlt : i < s.globals.length := there home inst (.global i) hold hi
    rw [Module.allocate, List.getElem?_append_left hlt] at hglobal
    exact ⟨i, hi, global, hglobal, htarget⟩
  · rcases names with hplace | ⟨i, hi, global, hglobal, htarget⟩
    · exact .inl hplace
    · refine (h.names_newInstance borrows ?_).imp_right mem_first_allocate
      rcases Wasm.getElem?_append_cases hglobal with hold | hnew
      · exact .inr ⟨i, hi, global, hold, htarget⟩
      · obtain ⟨entry, -, rfl⟩ := List.mem_map.1 hnew
        exact Wasm.ConstExpr.names_of_target? htarget

omit borrows in
/-- **The instance of a secluded module shares no table.** -/
theorem Secluded.allocate {resolve : Wasm.Import → Option Extern}
    (hlink : m.link? s resolve = some parts) (exports : ∀ name part,
      (s.instances.getD 0 {}).export? name = some part → (s.instances.getD 0 {}).Has part)
    (nonempty : 0 < s.instances.length) (secluded : m.isSecluded) :
    Secluded (m.allocate parts s) s.instances.length := by
  intro inst i name hinst hi hexport
  rw [first_allocate nonempty] at hexport
  have hfirst : s.instances[0]? = some (s.instances.getD 0 {}) := by
    rw [List.getD_eq_getElem?_getD, List.getElem?_eq_getElem nonempty, Option.getD_some]
  have hholds : s.Holds (.table i) := there 0 _ (.table i) hfirst (exports name _ hexport)
  rcases Module.instances_allocate hinst with hold | ⟨-, rfl⟩
  · exact absurd (List.getElem?_eq_some_iff.1 hold).1 (Nat.lt_irrefl _)
  · rcases (Module.has_newInstance (.table i)).1 hi with hpart | hadds
    · obtain ⟨imported, himported, -, provides⟩ := Wasm.import_of_link hlink hpart
      have hallowed := List.all_eq_true.1 secluded imported himported
      cases htype : imported.type with
      | table =>
        rw [htype] at hallowed
        cases hallowed
      | func | memory | global | tag =>
        rw [htype] at provides
        cases provides
    · exact Module.not_holds_of_adds _ hadds hholds

omit there borrows in
theorem Secluded.extend {home : Nat} (h : Secluded s home) (hlt : home < s.instances.length) :
    Secluded (m.allocate parts s) home := by
  intro inst i name hinst hi
  rw [first_allocate (Nat.zero_lt_of_lt hlt)]
  rcases Module.instances_allocate hinst with hold | ⟨rfl, -⟩
  · exact h inst i name hold hi
  · exact absurd hlt (Nat.lt_irrefl _)

end

/-! ## Stages of a registration -/

section

variable {s : Store guests} {m : Module} {parts : List Extern} {logger : Logger}
  {functions : List ((String × String) × HostFunction)} (there : Inhabited s) (stacked : Stacked s)
  (hlink : m.link? (offering s logger functions)
    (resolveImport (s.instances.getD 0 {}) (offered s functions)) = some parts)

include there stacked hlink

theorem Supplied.link (supplied : Supplied s) (aimed : Aimed s) :
    Aimed (m.allocate parts (offering s logger functions)) ∧
      Supplied (m.allocate parts (offering s logger functions)) := by
  have there₁ : Inhabited (offering s logger functions) := fun home inst part hinst hpart =>
    holds_offering logger functions (there home inst part hinst hpart)
  have borrows : Borrows (offering s logger functions) parts := by
    intro part hpart
    rcases part_of_link hlink hpart with ⟨place, hfunc, -⟩ | ⟨name, hexport⟩
    · exact .inl ⟨place, hfunc⟩
    · exact .inr (stacked.exports 0 _ name part stacked.first hexport)
  have aimed₁ : Aimed (offering s logger functions) := aimed
  have supplied₁ : Supplied (offering s logger functions) := supplied
  exact ⟨aimed₁.allocate there₁ borrows, supplied₁.allocate borrows aimed₁⟩

theorem Secluded.link {done : List ModuleDescriptor} {md : ModuleDescriptor}
    (secluded : ∀ home, secludes done home → Secluded s home)
    (count : s.instances.length = done.length + 1)
    (hdecode : Module.decode? md.bytes.bytes = some m) {home : Nat}
    (h : secludes (done ++ [md]) home) :
    Secluded (m.allocate parts (offering s logger functions)) home := by
  have there₁ : Inhabited (offering s logger functions) := fun home inst part hinst hpart =>
    holds_offering logger functions (there home inst part hinst hpart)
  rcases secludes_concat h with hold | ⟨rfl, hlast⟩
  · have before : Secluded (offering s logger functions) home := secluded home hold
    refine before.extend ?_
    show home < s.instances.length
    rw [count]
    exact lt_of_secludes hold
  · rw [ModuleDescriptor.isSecluded, hdecode] at hlast
    rw [← count]
    exact Secluded.allocate there₁ hlink
      (fun name part hexport => stacked.exports 0 _ name part stacked.first hexport)
      stacked.nonempty hlast

end

namespace Composed

variable {regime : Regime} {control : Module} {d : ServiceDescriptor} {sink : Sink}
  {done : List ModuleDescriptor} {s : Store guests} {earlier : RegisteredModules}

theorem supplied_control (control : Module) :
    Aimed (control.allocate [] (Service.freshStore d sink)) ∧
      Supplied (control.allocate [] (Service.freshStore d sink)) := by
  have there : Inhabited (Service.freshStore d sink) := fun _ _ _ hinst => nomatch hinst
  have aimed : Aimed (Service.freshStore d sink) := fun _ _ _ hinst => nomatch hinst
  have supplied : Supplied (Service.freshStore d sink) := fun _ _ _ ht => nomatch ht
  have borrows : Borrows (Service.freshStore d sink) [] := fun _ h => nomatch h
  exact ⟨aimed.allocate there borrows, supplied.allocate borrows aimed⟩

/-- **At every stage tables hold what instances put there that have them.** -/
theorem supplied (h : Composed regime control d sink done s earlier) (whole : control.Whole) :
    Aimed s ∧ Supplied s := by
  induction h with
  | control ready =>
    obtain ⟨aimed, supplied⟩ := supplied_control control
    have wired : Wired (control.allocate [] (Service.freshStore d sink)) :=
      Wired.allocate (fun _ _ ⟨_, held⟩ => nomatch held) control []
    have evolves := wired.evolves_of_instantiate ready
    exact ⟨aimed.of_targets evolves.instances (targets_of_instantiate ready),
      supplied.evolve evolves⟩
  | module before added ih =>
    obtain ⟨aimed, supplied⟩ := ih
    obtain ⟨there, stacked⟩ := before.stacked whole
    obtain ⟨m, s₂, parts, a, -, -, hchecks, -, hlink, hinstantiate, -, rfl⟩ :=
      addModule_gives.1 added
    have evolves := before.sound.evolves_of_instantiate hchecks hinstantiate
    obtain ⟨aimed₁, supplied₁⟩ := supplied.link there stacked hlink aimed
    have aimed₂ : Aimed s₂ :=
      aimed₁.of_targets evolves.instances (targets_of_instantiate hinstantiate)
    have supplied₂ : Supplied s₂ := supplied₁.evolve evolves
    exact ⟨aimed₂, supplied₂⟩

/-- **At every stage the instances of secluded modules share no table.** -/
theorem secluded (h : Composed regime control d sink done s earlier) (whole : control.Whole) :
    ∀ home, secludes done home → Secluded s home := by
  induction h with
  | control =>
    rintro (_ | position) h
    · cases h
    · cases h
  | @module done s s' earlier md entry before added ih =>
    intro home h
    obtain ⟨there, stacked⟩ := before.stacked whole
    obtain ⟨m, s₂, parts, a, hdecode, -, hchecks, -, hlink, hinstantiate, -, rfl⟩ :=
      addModule_gives.1 added
    have evolves := before.sound.evolves_of_instantiate hchecks hinstantiate
    have secluded₂ : Secluded s₂ home :=
      (Secluded.link there stacked hlink ih (before.laid whole).count hdecode h).evolve evolves
    exact secluded₂

end Composed

/-! ## Stores of services -/

/-- In a store with instances of the modules, those of secluded ones share no table. -/
structure Guarded (modules : List ModuleDescriptor) (s : Store guests) : Prop where
  stacked : Stacked s
  supplied : Supplied s
  secluded : ∀ home, secludes modules home → Secluded s home

namespace Guarded

variable {modules : List ModuleDescriptor} {s s' : Store guests}

theorem evolve (h : Guarded modules s) (hs : Evolves s s') : Guarded modules s' where
  stacked := h.stacked.evolve hs
  supplied := h.supplied.evolve hs
  secluded home hhome := (h.secluded home hhome).evolve hs

/-- **Code reaches functions of its own module and of the control module**, and one of another
module only if neither of the two is secluded. -/
theorem reached (h : Guarded modules s) {home place : Nat} {inst : Instance}
    (hinst : s.instances[home]? = some inst) (reached : s.Reaches inst place) :
    ∃ (origin : Nat) (inst' : Instance), s.instances[origin]? = some inst' ∧
      place ∈ inst'.functions ∧
      (origin = home ∨ origin = 0 ∨ ¬ secludes modules home ∧ ¬ secludes modules origin) := by
  obtain ⟨origin, inst', hinst', hplace, hcases⟩ := h.supplied.reached h.stacked hinst reached
  refine ⟨origin, inst', hinst', hplace, hcases.imp_right (.imp_right ?_)⟩
  rintro ⟨shares, shares'⟩
  exact ⟨mt (h.secluded home) shares, mt (h.secluded origin) shares'⟩

end Guarded

theorem Composed.guarded {regime : Regime} {control : Module} {d : ServiceDescriptor} {sink : Sink}
    {done : List ModuleDescriptor} {s : Store guests} {earlier : RegisteredModules}
    (h : Composed regime control d sink done s earlier) (whole : control.Whole) :
    Guarded done s where
  stacked := (h.stacked whole).2
  supplied := (h.supplied whole).2
  secluded := h.secluded whole

theorem Service.built_guarded : Built fun d service => Guarded d.modules service.store := by
  intro regime control d sink service whole h
  obtain ⟨stage, hstore⟩ := stage_of_build h
  have evolves : Evolves _ service.store := hstore ▸ Evolves.settled (.refl _)
  exact (stage.guarded whole).evolve evolves

/-! ## A service whose modules share a table -/

/-- A control module that exports a table of two functions. -/
def tabled : Bytes :=
  [0, 97, 115, 109, 1, 0, 0, 0, 4, 4, 1, 112, 0, 2, 7, 5, 1, 1, 116, 1, 0]

/-- The control module of that file. -/
def tabledControl : Module := (Module.decode? tabled).getD {}

/-- A module whose function `f` calls what is in the two slots of that table, in the second one a
function that logs. -/
def borrowing : Bytes :=
  [0, 97, 115, 109, 1, 0, 0, 0, 1, 25, 4, 96, 1, 127, 1, 127, 96, 4, 127, 127, 127, 127, 1,
    127, 96, 0, 0, 96, 5, 127, 127, 127, 127, 127, 0, 2, 15, 1, 7, 99, 111, 110, 116, 114, 111,
    108, 1, 116, 1, 112, 0, 2, 3, 3, 2, 0, 1, 5, 3, 1, 0, 1, 6, 8, 1, 127, 1, 65, 128, 192, 0,
    11, 7, 25, 3, 6, 109, 101, 109, 111, 114, 121, 2, 0, 8, 97, 108, 108, 111, 99, 97, 116,
    101, 0, 0, 1, 102, 0, 1, 10, 52, 2, 11, 0, 35, 0, 35, 0, 32, 0, 106, 36, 0, 11, 38, 0, 65,
    0, 17, 2, 0, 65, 3, 65, 0, 65, 0, 65, 16, 65, 1, 65, 1, 17, 3, 0, 32, 2, 65, 16, 54, 2, 0,
    32, 3, 65, 1, 54, 2, 0, 65, 0, 11, 11, 7, 1, 0, 65, 16, 11, 1, 48, 0, 44, 15, 105, 110,
    116, 101, 114, 102, 97, 99, 101, 45, 116, 121, 112, 101, 115, 123, 34, 102, 117, 110, 99,
    116, 105, 111, 110, 115, 34, 58, 91, 123, 34, 110, 97, 109, 101, 34, 58, 34, 102, 34, 125,
    93, 125]

/-- A module that puts there a function that changes its own memory and the one of the host with
which it logs. Its function `g` calls that of a module `m`. -/
def lending : Bytes :=
  [0, 97, 115, 109, 1, 0, 0, 0, 1, 25, 4, 96, 1, 127, 1, 127, 96, 4, 127, 127, 127, 127, 1,
    127, 96, 0, 0, 96, 5, 127, 127, 127, 127, 127, 0, 2, 44, 3, 7, 99, 111, 110, 116, 114, 111,
    108, 1, 116, 1, 112, 0, 2, 4, 104, 111, 115, 116, 15, 108, 111, 103, 95, 117, 116, 102, 56,
    95, 115, 116, 114, 105, 110, 103, 0, 3, 1, 109, 1, 102, 0, 1, 3, 5, 4, 0, 2, 1, 1, 5, 3, 1,
    0, 1, 6, 8, 1, 127, 1, 65, 128, 192, 0, 11, 7, 29, 4, 6, 109, 101, 109, 111, 114, 121, 2,
    0, 8, 97, 108, 108, 111, 99, 97, 116, 101, 0, 2, 1, 103, 0, 4, 1, 112, 0, 5, 9, 8, 1, 0,
    65, 0, 11, 2, 3, 0, 10, 72, 4, 11, 0, 35, 0, 35, 0, 32, 0, 106, 36, 0, 11, 9, 0, 65, 32,
    65, 49, 58, 0, 0, 11, 29, 0, 65, 0, 65, 0, 65, 48, 65, 52, 16, 1, 26, 32, 2, 65, 32, 54, 2,
    0, 32, 3, 65, 1, 54, 2, 0, 65, 0, 11, 18, 0, 32, 2, 65, 32, 54, 2, 0, 32, 3, 65, 1, 54, 2,
    0, 65, 0, 11, 11, 7, 1, 0, 65, 32, 11, 1, 48, 0, 57, 15, 105, 110, 116, 101, 114, 102, 97,
    99, 101, 45, 116, 121, 112, 101, 115, 123, 34, 102, 117, 110, 99, 116, 105, 111, 110, 115,
    34, 58, 91, 123, 34, 110, 97, 109, 101, 34, 58, 34, 103, 34, 125, 44, 123, 34, 110, 97,
    109, 101, 34, 58, 34, 112, 34, 125, 93, 125]

/-- The settings of a module that let pass what a module `n` logs and nothing else. -/
def lendingSettings : ModuleConfig :=
  ModuleConfig.resolveEnvs {} (some (Dict.empty.insert logVariable "n=trace"))

/-- A service of these modules. -/
def sharing : ServiceDescriptor :=
  ⟨"s", [⟨"m", .owned borrowing, lendingSettings⟩, ⟨"n", .owned lending, lendingSettings⟩], none⟩

theorem resolve_sharing : ServiceDescriptor.resolve "s"
    [("m", .owned borrowing), ("n", .owned lending)] none
    (some (Dict.empty.insert logVariable "n=trace")) = .ok sharing := by
  decide +kernel

theorem compile_tabled :
    Engine.compile {} tabled = .ok { regime := {}, control := tabledControl } := by
  have decodes : (Module.decode? tabled).isSome := by decide +kernel
  have bare : tabledControl.imports = [] := by decide +kernel
  obtain ⟨m, hm⟩ := Option.isSome_iff_exists.1 decodes
  have heq : tabledControl = m := by rw [tabledControl, hm, Option.getD_some]
  rw [heq] at bare ⊢
  simp only [Engine.compile, hm, bare]

end ModuleHost
