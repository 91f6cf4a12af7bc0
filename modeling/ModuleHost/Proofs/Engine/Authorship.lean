import ModuleHost.Proofs.Engine.Confinement
import ModuleHost.Proofs.Engine.Deeds

/-!
# Who writes into a guest's memory

A memory that belongs to one instance is written by functions of this instance, and by the host
where it fills a buffer that the instance's allocator handed out. Nothing else that runs in a store
changes it.

* `Authored` — a store whose changes to a memory all have such an author;
* `Authored.evolves` — it is one that calls lead to;
* `others` — the calls that functions of the instance itself do not make;
* `Owns.callRules`, `Owns.fills` — the functions that guests import and the writes into buffers;
* **`Owns.keeps_invoke`**: whatever others call, the memory has no other author;
* `Owns.authored_invoke`, `Owns.authored_callExport` — nor has it where the host calls.
-/

namespace ModuleHost

open Wasm (Word Store Run Instance Regime)

/-- An allocator is that of an instance: it allocates with its function in its memory. -/
structure Allocator.PartOf (a : Allocator) (i : Instance) : Prop where
  memory : i.export? memoryName = some (.memory a.memory)
  allocate : exportedFunction? i allocateName = some a.allocate

theorem Allocator.Of.partOf {a : Allocator} {s : Store guests} {i : Instance} (h : a.Of s i) :
    a.PartOf i :=
  ⟨(Allocates.of_exportedMemory? h.memory).1, h.allocate⟩

/-- The store comes from `s₀`, and only two things have changed a memory on the way: functions of
the instance `home`, and the host, which wrote into buffers that this instance allocated. -/
inductive Authored (regime : Regime) (s₀ : Store guests) (home memory : Nat) : Store guests → Prop
  | start : Authored regime s₀ home memory s₀
  /-- A function of the instance has run, with everything that it calls. -/
  | code {s : Store guests} {place : Nat} {type : Wasm.FuncType} {code : Wasm.Function} {kept : Nat}
      (before : Authored regime s₀ home memory s)
      (held : s.functions[place]? = some (.guest type home code kept)) (stack : Nat)
      (caller : Option Nat) (arguments : List Word) : Authored regime s₀ home memory
        (Wasm.invoke hostFunctions regime stack caller place arguments s).store
  /-- The host has filled a buffer. The changes made by allocating it have their own authors. -/
  | buffer {s s₁ s' : Store guests} {inst : Instance} {a : Allocator} {stack : Nat} {bytes : Bytes}
      {pointer : Word} (asked : Authored regime s₀ home memory s)
      (before : Authored regime s₀ home memory s₁)
      (hinst : s₀.instances[home]? = some inst) (part : a.PartOf inst)
      (allocates : a.Does (Wasm.invoke hostFunctions regime stack none)
        (.allocates bytes.length pointer) s s₁)
      (writes : a.Does (Wasm.invoke hostFunctions regime stack none)
        (.writes pointer bytes) s₁ s') : Authored regime s₀ home memory s'
  /-- Whatever else has run left the memory as it was. -/
  | other {s s' : Store guests} (before : Authored regime s₀ home memory s)
      (evolves : Evolves s s') (same : s'.memories[memory]? = s.memories[memory]?) :
      Authored regime s₀ home memory s'

/-- The calls that functions of the instance `home` do not make. -/
def others (home : Nat) : Wasm.Calls := fun caller _ _ => caller ≠ some home

section

variable {regime : Regime} {s₀ s s' : Store guests} {home memory : Nat}

theorem Allocator.evolves_of_writes {a : Allocator} {call : GuestCall} {pointer : Word}
    {bytes : Bytes} (h : a.Does call (.writes pointer bytes) s s') : Evolves s s' := by
  obtain ⟨written, fits, rfl⟩ := Allocator.does_writes.1 h
  have steady := (Evolves.guestInvariant s).steady
  exact of_write? (fun s => steady.memory s a.memory) (.refl s) fits

theorem Authored.evolves (h : Authored regime s₀ home memory s) : Evolves s₀ s := by
  induction h with
  | start => exact .refl s₀
  | code before held stack caller arguments ih => exact ih.trans (.invoke ..)
  | buffer asked before hinst part allocates writes _ ih =>
    exact ih.trans (Allocator.evolves_of_writes writes)
  | other before evolves same ih => exact ih.trans evolves

namespace Owns

variable (stacked : Stacked s₀) (owns : Owns s₀ home (.memory memory))

include stacked owns

/-- The memories of another instance may be written. -/
theorem writable {i place : Nat} {inst : Instance} (hne : i ≠ home)
    (hinst : s₀.instances[i]? = some inst) (hplace : inst.Has (.memory place)) :
    Wasm.Writable (Authored regime s₀ home memory) place := by
  intro s m m' hs hm follows
  refine hs.other ((Evolves.refl s).setMemory hm follows) (List.getElem?_set_ne ?_)
  rintro rfl
  exact owns.not_has stacked hne hinst hplace

theorem steadyIn {i : Nat} {inst : Instance} (hne : i ≠ home)
    (hinst : s₀.instances[i]? = some inst) :
    Wasm.SteadyIn inst (Authored regime s₀ home memory) where
  memory _ hplace := owns.writable stacked hne hinst hplace
  global _ _ s _ _ hs _ := hs.other { Evolves.refl s with } rfl

theorem usable {i : Nat} {inst : Instance} (hne : i ≠ home)
    (hinst : s₀.instances[i]? = some inst) {a : Allocator} (ha : a.Of s inst) :
    a.Usable (others home) (Authored regime s₀ home memory) where
  memory := owns.writable stacked hne hinst
    (stacked.exports i inst _ _ hinst ha.partOf.memory)
  allocate _ := nofun
  deallocate _ _ _ _ := nofun

/-- The functions that other guests import leave the memory to its authors. -/
theorem callRules :
    CallRules (others home) (Authored regime s₀ home memory) fun _ => True where
  lenient := ⟨trivial, trivial, trivial⟩
  broken := trivial
  plain _ _ := trivial
  caller s caller place arguments a hs may ha := by
    obtain ⟨i, inst, hcaller, hinst, of⟩ := Allocator.exists_of_ofCaller hs.evolves ha
    have hne : i ≠ home := by
      rintro rfl
      exact may hcaller
    exact owns.usable stacked hne hinst of
  log s place type position call caller level target targetLength message messageLength hs _ _ :=
    LogRules.keeps_log
      { lenient := ⟨trivial, trivial, trivial⟩
        broken := trivial
        plain := fun _ _ => trivial
        records := fun s _ hs => hs.other { Evolves.refl s with } rfl
        free := fun s _ _ hs => hs.other { Evolves.refl s with } rfl }
      call position caller level target targetLength message messageLength s hs
  buffer s _ _ hs := hs.other { Evolves.refl s with } rfl
  parameters _ s' _ hs' := hs'.other { Evolves.refl s' with } rfl
  sibling s _ _ hs _ := hs.other { Evolves.refl s with } rfl
  missing _ _ _ _ _ _ := trivial
  failed _ _ _ _ _ _ _ := trivial

/-- The host fills a buffer of the instance. -/
theorem fills {inst : Instance} (hinst : s₀.instances[home]? = some inst) {a : Allocator}
    (part : a.PartOf inst) {stack : Nat}
    (calls : CallRules.CallsKeep (others home) (Authored regime s₀ home memory) (fun _ => True)
      (Wasm.invoke hostFunctions regime stack none)) (bytes : Bytes) :
    Run.Keeps (Authored regime s₀ home memory) (fun _ => True)
      (a.write (Wasm.invoke hostFunctions regime stack none) bytes) := by
  have rules : CallRules (others home) (Authored regime s₀ home memory) fun _ => True :=
    owns.callRules stacked
  intro s hs
  unfold Allocator.write
  split
  · exact Run.Keeps.of_stop (rules.plain .bufferTooLong trivial) s hs
  · next hlength =>
    have hallocate := calls a.allocate [UInt32.ofNat bytes.length] nofun s hs
    rw [Run.bind_apply]
    cases ran : Wasm.invoke hostFunctions regime stack none a.allocate [UInt32.ofNat bytes.length] s
      with
    | stop why s₁ =>
      rw [ran] at hallocate
      exact hallocate
    | value results s₁ =>
      rw [ran] at hallocate
      have allocates := Allocator.Does.allocates (Nat.le_of_not_lt hlength) ran
      have before := rules.buffer s₁ (.allocated a.memory (results.headD 0) bytes.length) trivial
        hallocate
      dsimp only
      rw [note_bind]
      refine Wasm.Ended.Within.bind ?_ fun _ => .of_pure _
      refine rules.within_writeAt before (fun written fits => ?_) trivial
      exact .buffer hs before hinst part allocates (.writes fits)

/-- A call by others of a function that an instance exports has no other author. -/
theorem exportKeeps {i : Nat} {inst : Instance} (hinst : s₀.instances[i]? = some inst)
    {stack : Nat} (calls : CallRules.CallsKeep (others home) (Authored regime s₀ home memory)
      (fun _ => True) (Wasm.invoke hostFunctions regime stack none)) (function : String) :
    CallRules.ExportKeeps (Authored regime s₀ home memory) (fun _ => True) inst
      (Wasm.invoke hostFunctions regime stack none) function := by
  have rules : CallRules (others home) (Authored regime s₀ home memory) fun _ => True :=
    owns.callRules stacked
  by_cases heq : i = home
  · subst heq
    intro place _ input
    refine rules.keeps_runCallable fun s a hs ha => ?_
    have fills := owns.fills stacked hinst (Allocator.of_ofInstance ha).partOf calls
    exact rules.keeps_runExport_of calls fills (fun _ _ _ _ => nofun) (fun _ _ => nofun) input s hs
  · exact rules.exportKeeps calls
      { allocator := fun _ _ _ ha => owns.usable stacked heq hinst (Allocator.of_ofInstance ha)
        exported := fun _ _ _ _ => nofun }

/-- **A memory that an instance owns is written by its own functions and by the host in its
buffers**, whatever others call. -/
theorem keeps_invoke (stack : Nat) (caller : Option Nat) (place : Nat) (arguments : List Word)
    (may : others home caller place arguments) :
    Run.Keeps (Authored regime s₀ home memory) (fun _ => True)
      (Wasm.invoke hostFunctions regime stack caller place arguments) := by
  have rules : CallRules (others home) (Authored regime s₀ home memory) fun _ => True :=
    owns.callRules stacked
  refine Wasm.keeps_invoke_of rules.lenient ?entered ?crossed stack caller place arguments may
  case entered =>
    intro s stack caller place arguments type origin code kept inst hs may held hinst
    by_cases heq : origin = home
    · subst heq
      exact .inr (.of_store (hs.code held stack caller arguments))
    · -- code of another instance cannot reach the memory
      rw [hs.evolves.instances] at hinst
      refine .inl ⟨owns.steadyIn stacked heq hinst, fun _ _ _ _ _ h => ?_⟩
      exact heq (Option.some.inj h)
  case crossed =>
    intro s stack caller place arguments type function hs may held calls
    refine rules.within_hostFunctions calls (fun module name i hfunction hi => ?_) hs held may
    cases hplace : s.data.directory.get? module with
    | none =>
      rw [hplace] at hi
      cases hi
    | some number =>
      rw [hplace, Option.bind_some, hs.evolves.instances] at hi
      exact owns.exportKeeps stacked hi calls name

theorem authored_invoke (stack : Nat) {caller : Option Nat} (foreign : caller ≠ some home)
    (place : Nat) (arguments : List Word) (hs : Authored regime s₀ home memory s) :
    Authored regime s₀ home memory
      (Wasm.invoke hostFunctions regime stack caller place arguments s).store :=
  (owns.keeps_invoke stacked stack caller place arguments foreign s hs).store

/-- Nor has it another author while the host calls an export of an instance. -/
theorem authored_callExport {i : Nat} {inst : Instance} (hinst : s₀.instances[i]? = some inst)
    (stack : Nat) (function : String) (input : Bytes) (hs : Authored regime s₀ home memory s) :
    Authored regime s₀ home memory
      (callExport inst (Wasm.invoke hostFunctions regime stack none) function input s).store := by
  have calls : CallRules.CallsKeep (others home) (Authored regime s₀ home memory) (fun _ => True)
      (Wasm.invoke hostFunctions regime stack none) := owns.keeps_invoke stacked stack none
  exact (CallRules.keeps_callExport_of (owns.exportKeeps stacked hinst calls function) input s
    hs).store

end Owns

end

end ModuleHost
