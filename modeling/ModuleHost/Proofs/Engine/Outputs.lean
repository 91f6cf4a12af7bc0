import ModuleHost.Proofs.Engine.Deeds

/-!
# What a call returns

A call of an export returns what the guest had produced when the function ended. The output is read
out of memory before the guest's allocator sees any buffer again.

* `Evolves.holds_memory` — a memory has no fewer pages after a call;
* `Episode.Of.reads_input` — the function finds its input;
* `Delivers` — what a call of an export gives;
* **`delivers`**: every call does.
-/

namespace ModuleHost

open Wasm (Word Store Run Instance Regime Apart)

/-! ## Memories under calls -/

section

variable {s s' : Store guests}

theorem Evolves.holds_memory (h : Evolves s s') {memory start n : Nat}
    (there : memory < s.memories.length) (holds : (memoryAt s memory).holds start n) :
    (memoryAt s' memory).holds start n := by
  obtain ⟨m', hm', follows⟩ := h.memories memory _ (List.getElem?_eq_getElem there)
  rw [memoryAt, List.getElem?_eq_getElem there, Option.getD_some] at holds
  rw [memoryAt, hm', Option.getD_some]
  have grows : (s.memories[memory]).size ≤ m'.size := Nat.mul_le_mul_right _ follows.pages
  simp only [Wasm.Memory.holds, decide_eq_true_eq] at holds ⊢
  omega

end

namespace Episode

variable {regime : Regime} {stack : Nat} {e : Episode} {a : Allocator} {function : Nat}
  {input : Bytes} {s : Store guests}

/-- **The function finds its input**, unless the buffers overlap or the guest wrote into the first
one while it allocated the second. -/
theorem Of.reads_input
    (h : e.Of a (Wasm.invoke hostFunctions regime stack none) function input s)
    (apart : Apart e.inputAt.toNat input.length e.slots.toNat emptySlots.length)
    (same : ∀ address, e.inputAt.toNat ≤ address → address < e.inputAt.toNat + input.length →
      (memoryAt e.reserved a.memory).get address = (memoryAt e.filled a.memory).get address) :
    (memoryAt e.begun a.memory).read? e.inputAt.toNat input.length = some input := by
  obtain ⟨s₁, -, writes⟩ := Allocator.course_cons.1 h.handed
  obtain ⟨written, fits, hfilled⟩ := Allocator.does_writes.1 (Allocator.course_single.1 writes)
  obtain ⟨-, results, s₂, ran, -, hreserved⟩ := Allocator.does_allocates.1 h.slots
  obtain ⟨cleared, fits', hbegun⟩ := Allocator.does_writes.1 h.emptied
  have evolves : Evolves e.filled e.reserved := hreserved ▸ { Evolves.of_invoke ran with }
  -- the slots were written, so that the memory is there, and has been all along
  have there' : a.memory < e.reserved.memories.length := lt_of_write? fits' (List.cons_ne_nil _ _)
  have there : a.memory < e.filled.memories.length := evolves.memory_count ▸ there'
  have there₁ : a.memory < s₁.memories.length := by
    rw [hfilled] at there
    rwa [← List.length_set]
  have hmemory : memoryAt e.filled a.memory = written := hfilled ▸ memoryAt_set there₁
  have hread : (memoryAt e.filled a.memory).read? e.inputAt.toNat input.length = some input :=
    hmemory ▸ Wasm.Memory.read?_of_write? fits
  have hread' : (memoryAt e.reserved a.memory).read? e.inputAt.toNat input.length = some input := by
    unfold Wasm.Memory.read? at hread ⊢
    split at hread
    · next holds =>
      rw [if_pos (evolves.holds_memory there holds), Wasm.Memory.slice_congr same, ← hread]
    · cases hread
  have hbegun' : memoryAt e.begun a.memory = cleared := hbegun ▸ memoryAt_set there'
  rw [hbegun', Wasm.Memory.read?_of_write?_apart fits' (Or.symm apart), hread']

end Episode

/-! ## Calls -/

/-- What a call of an export of an instance gives. -/
structure Delivers (i : Instance) (call : GuestCall) (name : String) (input : Bytes)
    (s : Store guests) : Prop where
  /-- A call completes exactly if the function has run, once, on the input and two slots, if it has
  left an output, and if the buffers could be handed back behind: its status and its bytes are then
  those of the moment when the function had ended. -/
  completed : ∀ output s', callExport i call name input s = .value (.ok output) s' ↔
    ∃ c : Completion i call name input s output s', c.allocator.Course call c.deeds s s'
  /-- The function begins with its input in place, unless the buffers overlap or the guest wrote
  into the first one when it allocated the second. -/
  intact : ∀ place a e, Episode.Of e a call place input s →
    Apart e.inputAt.toNat input.length e.slots.toNat 8 →
    (∀ address, e.inputAt.toNat ≤ address → address < e.inputAt.toNat + input.length →
      (memoryAt e.reserved a.memory).get address = (memoryAt e.filled a.memory).get address) →
    (memoryAt e.begun a.memory).read? e.inputAt.toNat input.length = some input
  /-- Once the function has ended, the call fails exactly if the output is not there or a buffer
  cannot be handed back, and tells the reason. -/
  failed : ∀ place a e, Callable s i name place a → Episode.Of e a call place input s →
    ((∃ output s', callExport i call name input s = .value (.ok output) s') ↔
      ¬ ∃ why s', e.Fails a call input why s') ∧
    ∀ why s', e.Fails a call input why s' →
      callExport i call name input s = toldStop name s' why

/-- **A call returns what the guest had produced when the function ended.** -/
theorem delivers (regime : Regime) (stack : Nat) (i : Instance) (name : String) (input : Bytes)
    (s : Store guests) :
    Delivers i (Wasm.invoke hostFunctions regime stack none) name input s := by
  constructor
  case completed =>
    intro output s'
    rw [callExport_eq_ok_iff]
    exact ⟨fun ⟨c⟩ => ⟨c, c.course⟩, fun ⟨c, _⟩ => ⟨c⟩⟩
  case intact => exact fun place a e he apart same => he.reads_input apart same
  case failed =>
    intro place a e callable he
    have hrun := he.runExport_eq
    have htold (why : GuestStop) (s' : Store guests)
        (fails : e.Fails a (Wasm.invoke hostFunctions regime stack none) input why s') :
        callExport i (Wasm.invoke hostFunctions regime stack none) name input s =
          toldStop name s' why :=
      callExport_of_stop callable.exported callable.typed callable.allocator
        (hrun.trans (Episode.takeOver_eq_stop.2 fails))
    refine ⟨⟨?_, fun lasts => ?_⟩, htold⟩
    · rintro ⟨output, s', h⟩ ⟨why, s₁, fails⟩
      rw [htold why s₁ fails] at h
      cases why <;> cases h
    · cases htake : e.takeOver a (Wasm.invoke hostFunctions regime stack none) input e.ended with
      | value output s' =>
        exact ⟨output, s', callExport_eq_ok.2 ⟨place, a, callable, hrun.trans htake⟩⟩
      | stop why s' => exact absurd ⟨why, s', Episode.takeOver_eq_stop.1 htake⟩ lasts

end ModuleHost
