import ModuleHost.Proofs.Engine.Linking
import ModuleHost.Proofs.Engine.Seclusion

/-!
# What a module cannot touch

The functions of a module call its own code, that of the control module and, through the host, the
functions of modules before. If the modules behind are secluded, none of their functions is in a
table where it finds it. So whatever it does, the memories and globals of these modules stay as they
are.

* `Owns` — a part belongs to an instance, and the control module does not export it;
* `Spares`, `Confined` — the parts that the instances behind a place own are as they were;
* `within` — the calls that begin in an instance or before it;
* `SecludedBehind` — the modules behind a place are secluded;
* `Owns.not_has`, `apart_of_owns` — an instance does not have what another one owns;
* **`confined_rules`**: such calls leave alone what the instances behind own;
* **`Backwards.confined_invoke`**, `Backwards.confined_callExport` — so do functions of a module.
-/

namespace ModuleHost

open Wasm (Store Run Instance Extern Regime Word)

/-- A part belongs to the instance at a place, and it is none that the control module exports. -/
def Owns (s : Store guests) (home : Nat) (part : Extern) : Prop :=
  (∃ inst, s.instances[home]? = some inst ∧ inst.Has part) ∧
    ∀ name, (s.instances.getD 0 {}).export? name ≠ some part

/-- The memories and globals that the instances behind a place own in `s₀` are in `s` what they are
in `s₀`. -/
structure Spares (s₀ : Store guests) (home : Nat) (s : Store guests) : Prop where
  memories : ∀ behind place, home < behind → Owns s₀ behind (.memory place) →
    s.memories[place]? = s₀.memories[place]?
  globals : ∀ behind place, home < behind → Owns s₀ behind (.global place) →
    s.globals[place]? = s₀.globals[place]?

/-- The store `s` is `s₀` after calls that touched nothing of the instances behind a place. -/
structure Confined (s₀ : Store guests) (home : Nat) (s : Store guests) : Prop where
  evolves : Evolves s₀ s
  spares : Spares s₀ home s

/-- The calls of functions that the instances up to a place have, by these instances or the host. -/
def within (s : Store guests) (home : Nat) : Wasm.Calls := fun caller place _ =>
  (∃ (i : Nat) (inst : Instance), i ≤ home ∧ s.instances[i]? = some inst ∧
    place ∈ inst.functions) ∧ ∀ i, caller = some i → i ≤ home

/-- The instances of a store behind a place are those of secluded modules. -/
def SecludedBehind (modules : List ModuleDescriptor) (s : Store guests) (home : Nat) : Prop :=
  ∀ i, home < i → i < s.instances.length → secludes modules i

section

variable {done modules : List ModuleDescriptor} {s₀ s : Store guests} {home : Nat}

theorem Confined.refl (s : Store guests) (home : Nat) : Confined s home s :=
  ⟨.refl s, ⟨fun _ _ _ _ => rfl, fun _ _ _ _ => rfl⟩⟩

theorem Owns.not_has (stacked : Stacked s₀) {part : Extern} (owns : Owns s₀ home part)
    {i : Nat} {inst : Instance} (hne : i ≠ home) (hinst : s₀.instances[i]? = some inst) :
    ¬ inst.Has part := by
  intro hpart
  obtain ⟨⟨inst', hinst', hpart'⟩, hnot⟩ := owns
  obtain ⟨name, hexport⟩ := stacked.shared_of_ne hne hinst hinst' hpart hpart'
  exact hnot name hexport

theorem apart_of_owns (stacked : Stacked s₀) {i behind : Nat} {inst : Instance}
    {part part' : Extern}
    (hi : i ≤ home) (hinst : s₀.instances[i]? = some inst) (hpart : inst.Has part)
    (hbehind : home < behind) (howns : Owns s₀ behind part') : part' ≠ part := by
  rintro rfl
  exact howns.not_has stacked (by omega) hinst hpart

/-- The memories of an instance may be written if those behind are to stay. -/
theorem writable_of_has (stacked : Stacked s₀) {i place : Nat} {inst : Instance} (hi : i ≤ home)
    (hinst : s₀.instances[i]? = some inst) (hplace : inst.Has (.memory place)) :
    Wasm.Writable (Confined s₀ home) place := by
  intro s m m' hs hm follows
  refine ⟨hs.evolves.setMemory hm follows, ⟨fun behind place' hbehind howns => ?_, ?_⟩⟩
  · have hne : place ≠ place' := by
      rintro rfl
      exact apart_of_owns stacked hi hinst hplace hbehind howns rfl
    rw [List.getElem?_set_ne hne]
    exact hs.spares.memories behind place' hbehind howns
  · exact hs.spares.globals

theorem steadyIn_of_le (stacked : Stacked s₀) {i : Nat} {inst : Instance} (hi : i ≤ home)
    (hinst : s₀.instances[i]? = some inst) : Wasm.SteadyIn inst (Confined s₀ home) where
  memory place hplace := writable_of_has stacked hi hinst hplace
  global place hplace s g w hs hg := by
    refine ⟨{ hs.evolves with }, ⟨hs.spares.memories, fun behind place' hbehind howns => ?_⟩⟩
    have hhas : inst.Has (.global place) := hplace
    have hne : place ≠ place' := by
      rintro rfl
      exact apart_of_owns stacked hi hinst hhas hbehind howns rfl
    rw [List.getElem?_set_ne hne]
    exact hs.spares.globals behind place' hbehind howns

theorem within_of_export (stacked : Stacked s₀) {i place : Nat} {inst : Instance} {name : String}
    (hi : i ≤ home) (hinst : s₀.instances[i]? = some inst)
    (hexport : exportedFunction? inst name = some place) (arguments : List Word) :
    within s₀ home none place arguments := by
  have hhas := stacked.exports i inst _ _ hinst (Allocates.of_exportedFunction? hexport)
  exact ⟨⟨i, inst, hi, hinst, hhas⟩, fun _ h => nomatch h⟩

theorem usable_of_le (stacked : Stacked s₀) {i : Nat} {inst : Instance} (hi : i ≤ home)
    (hinst : s₀.instances[i]? = some inst) {a : Allocator} (ha : a.Of s inst) :
    a.Usable (within s₀ home) (Confined s₀ home) where
  memory :=
    writable_of_has stacked hi hinst
      (stacked.exports i inst _ _ hinst (Allocates.of_exportedMemory? ha.memory).1)
  allocate _ := within_of_export stacked hi hinst ha.allocate _
  deallocate f hf _ _ := by
    rw [ha.deallocate, Allocator.deallocate?, Option.filter_eq_some_iff] at hf
    exact within_of_export stacked hi hinst hf.1 _

theorem mayCall_of_le (stacked : Stacked s₀) {i : Nat} {inst : Instance} (hi : i ≤ home)
    (hinst : s₀.instances[i]? = some inst) (function : String) :
    MayCall (within s₀ home) (Confined s₀ home) inst function where
  allocator _ _ _ ha := usable_of_le stacked hi hinst (Allocator.of_ofInstance ha)
  exported _ hplace arguments _ := within_of_export stacked hi hinst hplace arguments

/-- Code of an instance or of one before reaches functions of such instances. -/
theorem within_of_reaches (guarded : Guarded modules s₀) (behind : SecludedBehind modules s₀ home)
    {origin place : Nat} {inst : Instance} (horigin : origin ≤ home)
    (hinst : s₀.instances[origin]? = some inst) (reached : s₀.Reaches inst place)
    (arguments : List Word) : within s₀ home (some origin) place arguments := by
  obtain ⟨i, inst', hinst', hplace, hcases⟩ := guarded.reached hinst reached
  refine ⟨⟨i, inst', ?_, hinst', hplace⟩, fun j hj => by cases hj; exact horigin⟩
  rcases hcases with rfl | rfl | ⟨-, shares⟩
  · exact horigin
  · exact Nat.zero_le _
  · exact Nat.le_of_not_lt fun hlt => shares (behind i hlt (List.getElem?_eq_some_iff.1 hinst').1)

/-- **Calls that begin in an instance or before it leave alone what the instances behind own**, if
these are secluded. -/
theorem confined_rules (guarded : Guarded modules s₀) (behind : SecludedBehind modules s₀ home)
    (back : Backwards done s₀) :
    ConfinedRules (within s₀ home) (Confined s₀ home) fun _ => True where
  lenient := ⟨trivial, trivial, trivial⟩
  broken := trivial
  plain _ _ := trivial
  inside s caller place arguments type origin code kept inst hs may held hinst := by
    obtain ⟨⟨i, inst₀, hi, hinst₀, hplace⟩, -⟩ := may
    rw [hs.evolves.functions] at held
    rw [hs.evolves.instances] at hinst
    -- the code is that of the instance or of the control module
    have horigin : origin ≤ home := by
      rcases guarded.stacked.code i inst₀ place type origin code kept hinst₀ hplace held with rfl | rfl
      · exact hi
      · exact Nat.zero_le _
    refine ⟨steadyIn_of_le guarded.stacked horigin hinst, fun s place arguments hs reached => ?_⟩
    rw [Store.Reaches, hs.evolves.tables] at reached
    exact within_of_reaches guarded behind horigin hinst reached arguments
  caller s caller place arguments a hs may ha := by
    obtain ⟨i, inst, hcaller, hinst, of⟩ := Allocator.exists_of_ofCaller hs.evolves ha
    exact usable_of_le guarded.stacked (may.2 i hcaller) hinst of
  callee s caller place type module function arguments inst hs held may hinst := by
    obtain ⟨⟨i, inst₀, hi, hinst₀, hplace⟩, -⟩ := may
    rw [hs.evolves.functions] at held
    obtain ⟨behind, hbehind, provides⟩ :=
      back.calls i inst₀ place type module function hinst₀ hplace held
    rw [hs.evolves.directory, provides.directory, Option.bind_some, hs.evolves.instances] at hinst
    exact mayCall_of_le guarded.stacked (by omega) hinst function
  log s place type position call caller level target targetLength message messageLength hs _ _ :=
    LogRules.keeps_log
      { lenient := ⟨trivial, trivial, trivial⟩
        broken := trivial
        plain := fun _ _ => trivial
        records := fun _ _ hs => ⟨{ hs.evolves with }, { hs.spares with }⟩
        free := fun _ _ _ hs => ⟨{ hs.evolves with }, { hs.spares with }⟩ }
      call position caller level target targetLength message messageLength s hs
  buffer _ _ _ hs := ⟨{ hs.evolves with }, { hs.spares with }⟩
  parameters _ _ _ hs' := ⟨{ hs'.evolves with }, { hs'.spares with }⟩
  sibling _ _ _ hs _ := ⟨{ hs.evolves with }, { hs.spares with }⟩
  missing _ _ _ _ _ _ := trivial
  failed _ _ _ _ _ _ _ := trivial

/-- **A function of an instance leaves alone what the instances behind own**, with everything that
it calls. -/
theorem Backwards.confined_invoke (back : Backwards done s₀) (guarded : Guarded modules s₀)
    (behind : SecludedBehind modules s₀ home) (regime : Regime) (stack : Nat) {i place : Nat}
    {inst : Instance} (hi : i ≤ home) (hinst : s₀.instances[i]? = some inst)
    (hplace : place ∈ inst.functions) {caller : Option Nat}
    (hcaller : ∀ i, caller = some i → i ≤ home) (arguments : List Word) :
    Confined s₀ home (Wasm.invoke hostFunctions regime stack caller place arguments s₀).store := by
  have rules := confined_rules guarded behind back
  have may : within s₀ home caller place arguments := ⟨⟨i, inst, hi, hinst, hplace⟩, hcaller⟩
  exact (Wasm.keeps_invoke rules.lenient rules.inside rules.keep_hostFunctions regime stack
    caller place arguments may s₀ (.refl s₀ home)).store

theorem Backwards.confined_callExport (back : Backwards done s₀) (guarded : Guarded modules s₀)
    (behind : SecludedBehind modules s₀ home) (regime : Regime) (stack : Nat) {i : Nat}
    {inst : Instance} (hi : i ≤ home) (hinst : s₀.instances[i]? = some inst) (function : String)
    (input : Bytes) :
    Confined s₀ home (callExport inst (Wasm.invoke hostFunctions regime stack none) function input
      s₀).store := by
  have rules := confined_rules guarded behind back
  have may := mayCall_of_le guarded.stacked hi hinst function
  have keeps := rules.keeps_callExport (rules.keeps_invoke regime stack) may input
  exact (keeps s₀ (.refl s₀ home)).store

end

end ModuleHost
