import ModuleHost.Proofs.Engine.Custody

/-!
# Addresses and lengths

The words that pass between the host and a guest are addresses, which are unsigned, and lengths,
which are signed. The host computes with them as signed numbers.

* `Stands` — a word that is a number in both readings;
* `Overflows` — the address of the second of two slots is no signed number;
* `StopsFor`, `Accounted` — why work of the host on guests stops;
* `ExportArithmetic` — the numbers and the ranges of a call of an export;
* `AnswerArithmetic` — those of a buffer that is handed to a guest;
* `SiblingArithmetic`, `ParametersArithmetic` — those of the imports that hand one out;
* **`guest_arithmetic`**: all are exact, but for the slots that overflow;
* `distant_breaks` — slots just below 2 GiB.
-/

namespace ModuleHost

open Wasm (Word Store Run Instance)

/-! ## Words -/

/-- A word is a number, read as an address and as a signed number. -/
structure Stands (w : Word) (n : Nat) : Prop where
  address : w.toNat = n
  signed : w.toInt32.toInt = n

theorem toInt_toInt32 (w : Word) :
    w.toInt32.toInt = if w.toNat < 0x80000000 then (w.toNat : Int) else w.toNat - 0x100000000 := by
  have hread : w.toInt32.toInt = w.toBitVec.toInt := rfl
  have hsize : w.toBitVec.toNat = w.toNat := rfl
  rw [hread, BitVec.toInt_eq_toNat_cond, hsize]
  split <;> split <;> omega

theorem stands_of_nonneg {w : Word} (h : 0 ≤ w.toInt32) : Stands w w.toNat := by
  have hint : 0 ≤ w.toInt32.toInt := Int32.le_iff_toInt_le.1 h
  have hlt := w.toNat_lt
  refine ⟨rfl, ?_⟩
  rw [toInt_toInt32] at hint ⊢
  split at hint <;> omega

theorem stands_ofNat {n : Nat} (h : n ≤ Allocator.maxLength) : Stands (UInt32.ofNat n) n := by
  unfold Allocator.maxLength at h
  have hlt : n < UInt32.size := by
    unfold UInt32.size
    omega
  have haddress : (UInt32.ofNat n).toNat = n := UInt32.toNat_ofNat_of_lt' hlt
  refine ⟨haddress, ?_⟩
  rw [toInt_toInt32, haddress, if_pos (by omega)]

/-- The address behind a slot is greater than every signed number. -/
def Overflows (slot : Word) : Prop := Int32.maxValue.toInt < slot.toInt32.toInt + 4

instance (slot : Word) : Decidable (Overflows slot) := inferInstanceAs (Decidable (_ < _))

theorem overflows_iff {slot : Word} :
    Overflows slot ↔ 0x7FFFFFFC ≤ slot.toNat ∧ slot.toNat ≤ 0x7FFFFFFF := by
  have hlt := slot.toNat_lt
  have hmax : Int32.maxValue.toInt = 0x7FFFFFFF := rfl
  rw [Overflows, toInt_toInt32, hmax]
  split <;> omega

theorem slotBehind?_eq (slot : Word) :
    slotBehind? slot = if Overflows slot then none else some (slot + slotSize) := by
  have hlast : slot.toInt32 ≤ Int32.maxValue - slotSize.toInt32 ↔ ¬ Overflows slot := by
    have hmax : (Int32.maxValue - slotSize.toInt32).toInt = 0x7FFFFFFB := rfl
    have hmax' : Int32.maxValue.toInt = 0x7FFFFFFF := rfl
    rw [Int32.le_iff_toInt_le, hmax, Overflows, hmax']
    omega
  unfold slotBehind?
  by_cases h : Overflows slot
  · rw [if_neg (fun hle => hlast.1 hle h), if_pos h]
  · rw [if_pos (hlast.2 h), if_neg h]

theorem toNat_add_slotSize {slot : Word} (h : slot.toNat + 8 ≤ 0x100000000) :
    (slot + slotSize).toNat = slot.toNat + 4 := by
  have hsize : slotSize.toNat = 4 := rfl
  rw [UInt32.toNat_add, hsize]
  omega

theorem toInt_add_slotSize {slot : Word} (h : slot.toNat + 8 ≤ 0x100000000) :
    (slot + slotSize).toInt32.toInt = slot.toInt32.toInt + 4 ↔ ¬ Overflows slot := by
  rw [overflows_iff, toInt_toInt32, toInt_toInt32, toNat_add_slotSize h]
  split <;> split <;> omega

/-! ## Stops -/

/-- Why work of the host that calls guests by `call` stops. -/
inductive StopsFor (call : GuestCall) : GuestStop → Prop
  /-- The host tells a fault. -/
  | raised (fault : AbiFault) : StopsFor call (.raised fault)
  /-- Guest code does not come back. -/
  | guest {function : Nat} {arguments : List Word} {s s' : Store guests} {why : GuestStop}
      (stops : call function arguments s = .stop why s') : StopsFor call why
  /-- The slots of a call overflow. -/
  | overflow {a : Allocator} {input : Bytes} {s filled begun : Store guests} {inputAt slots : Word}
      (handed : a.write call input s = .value inputAt filled)
      (reserved : a.write call emptySlots filled = .value slots begun)
      (overflows : Overflows slots) : StopsFor call .broken

/-- Work of the host stops only for these reasons. -/
def Accounted {α : Type} (call : GuestCall) (x : Guest α) : Prop :=
  Run.Keeps (fun _ => True) (StopsFor call) x

namespace Accounted

variable {α : Type} {call : GuestCall}

theorem stopsFor {x : Guest α} (h : Accounted call x) {s s' : Store guests} {why : GuestStop}
    (stops : x s = .stop why s') : StopsFor call why := by
  have within := h s trivial
  rw [stops] at within
  exact within.2

theorem of_stops {x : Guest α} (h : ∀ s why s', x s = .stop why s' → StopsFor call why) :
    Accounted call x := by
  intro s _
  cases hx : x s with
  | value a s' => exact trivial
  | stop why s' => exact ⟨trivial, h s why s' hx⟩

theorem of_call (function : Nat) (arguments : List Word) :
    Accounted call (call function arguments) :=
  of_stops fun _ _ _ stops => .guest stops

theorem of_note (x : Exchange) : Accounted call (note x) := fun _ _ => trivial

theorem of_orRaise (x : Except AbiFault α) : Accounted call (orRaise x) := by
  cases x with
  | ok a => exact .of_pure a
  | error fault => exact .of_stop (.raised fault)

theorem of_readSlot (memory : Nat) (pointer : Word) : Accounted call (readSlot memory pointer) :=
  .of_store fun s hs => of_orRaise _ s hs

theorem of_readBuffer (memory : Nat) (pointer length : Word) :
    Accounted call (readBuffer memory pointer length) :=
  .of_store fun s hs => of_orRaise _ s hs

theorem of_writeAt (memory : Nat) (pointer : Word) (bytes : Bytes) (fault : AbiFault) :
    Accounted call (writeAt memory pointer bytes fault) := by
  refine .of_store fun s hs => ?_
  cases (memoryAt s memory).write? pointer.toNat bytes with
  | none => exact ⟨trivial, .raised fault⟩
  | some written => exact trivial

theorem of_write (a : Allocator) (bytes : Bytes) : Accounted call (a.write call bytes) := by
  unfold Allocator.write
  split
  · exact .of_stop (.raised _)
  · refine (of_call _ _).bind fun results => (of_note _).bind fun _ => ?_
    exact (of_writeAt _ _ _ _).bind fun _ => .of_pure _

theorem of_free (a : Allocator) (pointer length : Word) :
    Accounted call (a.free call pointer length) := by
  unfold Allocator.free
  split
  · exact .of_pure _
  · exact (of_note _).bind fun _ => (of_call _ _).bind fun _ => .of_pure _

theorem of_handOver (a : Allocator) (input : Bytes) : Accounted call (handOver a call input) := by
  refine of_stops fun s why s' stops => ?_
  rcases Run.bind_eq_stop.1 stops with stops | ⟨inputAt, filled, handed, stops⟩
  · exact (of_write a input).stopsFor stops
  rcases Run.bind_eq_stop.1 stops with stops | ⟨slots, begun, reserved, stops⟩
  · exact (of_write a emptySlots).stopsFor stops
  rw [slotBehind?_eq] at stops
  split at stops
  · next overflows =>
    cases stops
    exact .overflow handed reserved overflows
  · cases stops

theorem of_takeOver (a : Allocator) (inputAt length slots lengthSlot : Word)
    (results : List Word) :
    Accounted call (takeOver a call inputAt length slots lengthSlot results) := by
  unfold takeOver
  refine (of_readSlot _ _).bind fun outputAt => (of_readSlot _ _).bind fun outputLength => ?_
  refine (of_readBuffer _ _ _).bind fun bytes => ?_
  have rest : Accounted call (a.free call slots 8 >>= fun _ => a.free call inputAt length >>=
      fun _ => pure (RawOutput.mk (results.headD 0).toInt32 bytes)) :=
    (of_free a slots 8).bind fun _ => (of_free a inputAt length).bind fun _ => .of_pure _
  show Accounted call (if 0 < outputLength.toInt32 then _ else _)
  split
  · exact (of_free a outputAt outputLength).bind fun _ => rest
  · exact rest

theorem of_runExport (a : Allocator) (function : Nat) (input : Bytes) :
    Accounted call (runExport a call function input) := by
  refine of_stops fun s why s' stops => ?_
  rw [runExport_apply] at stops
  split at stops
  · next inputAt slots lengthSlot begun _ =>
    have run : Accounted call
        (call function [inputAt, UInt32.ofNat input.length, slots, lengthSlot] >>=
          takeOver a call inputAt (UInt32.ofNat input.length) slots lengthSlot) :=
      (of_call _ _).bind fun results => of_takeOver a _ _ _ _ results
    exact run.stopsFor stops
  · next hstop =>
    cases stops
    exact (of_handOver a input).stopsFor hstop

theorem of_callExport (i : Instance) (function : String) (input : Bytes) :
    Accounted call (callExport i call function input) := by
  refine CallRules.keeps_callExport_of (fun place _ input => ?_) input
  refine of_stops fun s why s' stops => ?_
  rw [runCallable_apply] at stops
  split at stops
  · split at stops
    · next a _ => exact (of_runExport a place input).stopsFor stops
    · cases stops
      exact .raised _
  · cases stops
    exact .raised _

theorem of_answerWith (own : Allocator) (bytes : Bytes) (pointerSlot lengthSlot : Word) :
    Accounted call (answerWith own call bytes pointerSlot lengthSlot) :=
  (of_write own bytes).bind fun _ => (of_writeAt _ _ _ _).bind fun _ => of_writeAt _ _ _ _

theorem of_callingAllocator (caller : Option Nat) : Accounted call (callingAllocator caller) :=
  fun s hs => of_orRaise _ s hs

theorem of_handOutParameters (caller : Option Nat) (pointerSlot lengthSlot : Word) :
    Accounted call (handOutParameters call caller pointerSlot lengthSlot) := by
  refine .of_store fun s hs => ?_
  refine (of_callingAllocator caller).bind (fun own => ?_) s hs
  exact (of_answerWith own _ _ _).bind fun _ => of_note _

theorem of_callSibling (module function : String) (caller : Option Nat)
    (input inputLength pointerSlot lengthSlot : Word) :
    Accounted call
      (callSibling module function call caller input inputLength pointerSlot lengthSlot) := by
  refine .of_store fun s hs => ?_
  refine (of_note _).bind (fun _ => ?_) s hs
  split
  · exact .of_stop (.raised _)
  · refine (of_callingAllocator caller).bind fun own => ?_
    refine (of_readBuffer _ _ _).bind fun sent => (of_callExport _ _ _).bind fun called => ?_
    split
    · exact .of_stop (.raised _)
    · exact (of_answerWith own _ _ _).bind fun _ => .of_pure _

end Accounted

/-! ## Ranges -/

/-- The length of a buffer that is read is exact. -/
theorem Buffered.stands {memory : Wasm.Memory} {pointer length : Word} {bytes : Bytes}
    (h : Buffered memory pointer length bytes) : Stands length bytes.length := by
  rw [h.bytes, Wasm.Memory.length_slice]
  exact stands_of_nonneg h.nonnegative

theorem holds_of_wordIn {memory : Wasm.Memory} {pointer w : Word}
    (h : wordIn? memory pointer = some w) : memory.holds pointer.toNat 4 := by
  obtain ⟨bytes, hread, -⟩ := Option.map_eq_some_iff.1 h
  unfold Wasm.Memory.read? at hread
  split at hread
  · assumption
  · cases hread

section

variable {a : Allocator} {call : GuestCall} {s s' : Store guests} {pointer : Word} {bytes : Bytes}

/-- What is written lies inside, before and behind. -/
theorem Allocator.Does.holds (h : a.Does call (.writes pointer bytes) s s') :
    (memoryAt s a.memory).holds pointer.toNat bytes.length ∧
      (memoryAt s' a.memory).size = (memoryAt s a.memory).size := by
  obtain ⟨written, fits, rfl⟩ := Allocator.does_writes.1 h
  have hpages := Wasm.Memory.pages_of_write? fits
  constructor
  · unfold Wasm.Memory.write? at fits
    split at fits
    · assumption
    · cases fits
  · by_cases hplace : a.memory < s.memories.length
    · rw [memoryAt_set hplace, Wasm.Memory.size, hpages, Wasm.Memory.size]
    · rw [List.set_eq_of_length_le (Nat.le_of_not_lt hplace)]

theorem Allocator.exact_of_write (h : a.write call bytes s = .value pointer s') :
    Stands (UInt32.ofNat bytes.length) bytes.length ∧
      (memoryAt s' a.memory).holds pointer.toNat bytes.length := by
  obtain ⟨s₁, allocates, course⟩ := Allocator.course_cons.1 (Allocator.write_eq_value.1 h)
  obtain ⟨inside, same⟩ := (Allocator.course_single.1 course).holds
  refine ⟨stands_ofNat (Allocator.does_allocates.1 allocates).1, ?_⟩
  rwa [Wasm.Memory.holds, same]

end

/-! ## Calls of exports -/

/-- The numbers and the ranges of a call of an export for which the host has filled two buffers. -/
structure ExportArithmetic (a : Allocator) (call : GuestCall) (function : Nat) (input : Bytes)
    (s : Store guests) (inputAt slots : Word) (begun : Store guests) : Prop where
  /-- The length of the input is exact. -/
  length : Stands (UInt32.ofNat input.length) input.length
  /-- Both slots lie inside. -/
  inside : (memoryAt begun a.memory).holds slots.toNat 8
  /-- The address of the second slot is exact, -/
  behind : (slots + slotSize).toNat = slots.toNat + 4
  /-- and so it is as a signed number, unless that overflows. -/
  signed : (slots + slotSize).toInt32.toInt = slots.toInt32.toInt + 4 ↔ ¬ Overflows slots
  /-- If it does, the memory has more than 2 GiB and the host breaks down before the function runs.
  -/
  overflow : Overflows slots → 0x80000000 < (memoryAt begun a.memory).size ∧
    runExport a call function input s = .stop .broken begun
  /-- Otherwise the function runs on these numbers. Behind a function that ends, the slots and the
  output lie inside, the length of the output is exact and the host hands the buffers back; or it
  tells what is outside. -/
  output : ¬ Overflows slots → ∀ results ended,
    call function [inputAt, UInt32.ofNat input.length, slots, slots + slotSize] begun =
      .value results ended →
    (∃ outputAt outputLength bytes,
      Produced (memoryAt ended a.memory) slots (slots + slotSize) outputAt outputLength bytes ∧
      (memoryAt ended a.memory).holds slots.toNat 4 ∧
      (memoryAt ended a.memory).holds (slots.toNat + 4) 4 ∧
      (outputLength ≠ 0 → (memoryAt ended a.memory).holds outputAt.toNat outputLength.toNat) ∧
      Stands outputLength bytes.length ∧ outputAt.toNat + outputLength.toNat < UInt64.size ∧
      runExport a call function input s =
        (a.freeAll call (handedBack inputAt (UInt32.ofNat input.length) slots outputAt
          outputLength) >>= fun _ => pure ⟨(results.headD 0).toInt32, bytes⟩) ended) ∨
    ∃ fault, OutputFault (memoryAt ended a.memory) slots (slots + slotSize) fault ∧
      runExport a call function input s = .stop (.raised fault) ended

section

variable {a : Allocator} {call : GuestCall} {function : Nat} {input : Bytes}
  {s filled begun : Store guests} {inputAt slots : Word}

theorem handOver_of_writes (handed : a.write call input s = .value inputAt filled)
    (reserved : a.write call emptySlots filled = .value slots begun) :
    handOver a call input s =
      if Overflows slots then .stop .broken begun
      else .value (inputAt, slots, slots + slotSize) begun := by
  unfold handOver
  rw [Run.bind_of_value handed, Run.bind_of_value reserved, slotBehind?_eq]
  split <;> rfl

theorem exportArithmetic (handed : a.write call input s = .value inputAt filled)
    (reserved : a.write call emptySlots filled = .value slots begun)
    (bounded : (memoryAt begun a.memory).pages ≤ Wasm.maxPages) :
    ExportArithmetic a call function input s inputAt slots begun := by
  obtain ⟨length, -⟩ := Allocator.exact_of_write handed
  obtain ⟨-, inside⟩ := Allocator.exact_of_write reserved
  have hsize : (memoryAt begun a.memory).size ≤ 0x100000000 :=
    Nat.mul_le_mul_right Wasm.pageSize bounded
  have hend : slots.toNat + 8 ≤ (memoryAt begun a.memory).size := of_decide_eq_true inside
  have hslots : slots.toNat + 8 ≤ 0x100000000 := Nat.le_trans hend hsize
  have behind := toNat_add_slotSize hslots
  have hhanded := handOver_of_writes handed reserved
  refine ⟨length, inside, behind, toInt_add_slotSize hslots, fun overflows => ?_,
    fun fits results ended ran => ?_⟩
  · rw [if_pos overflows] at hhanded
    rw [runExport_apply, hhanded]
    have hlow := (overflows_iff.1 overflows).1
    exact ⟨by omega, rfl⟩
  · rw [if_neg fits] at hhanded
    have hrun : runExport a call function input s = takeOver a call inputAt
        (UInt32.ofNat input.length) slots (slots + slotSize) results ended := by
      rw [runExport_apply, hhanded]
      exact Run.bind_of_value ran _
    obtain ⟨outputAt, outputLength, bytes, produced⟩ | ⟨fault, hfault⟩ :=
      produced_or_fault (memoryAt ended a.memory) slots (slots + slotSize)
    · refine .inl ⟨outputAt, outputLength, bytes, produced, holds_of_wordIn produced.pointer,
        behind ▸ holds_of_wordIn produced.length, produced.inside, ?_, ?_,
        hrun.trans (takeOver_of_produced produced)⟩
      · exact produced.stands
      · have h₁ := outputAt.toNat_lt
        have h₂ := outputLength.toNat_lt
        unfold UInt64.size
        omega
    · exact .inr ⟨fault, hfault, hrun.trans (takeOver_of_fault hfault)⟩

end

/-! ## Buffers that are handed to a guest -/

/-- The numbers and the ranges of an answer to a guest for which the host has filled a buffer. -/
structure AnswerArithmetic (own : Allocator) (call : GuestCall) (bytes : Bytes)
    (pointerSlot lengthSlot : Word) (s : Store guests) (pointer : Word) (filled : Store guests) :
    Prop where
  /-- The length of the answer is exact. -/
  length : Stands (UInt32.ofNat bytes.length) bytes.length
  /-- The buffer lies inside. -/
  inside : (memoryAt filled own.memory).holds pointer.toNat bytes.length
  /-- The slots lie inside and get its place and its length, or the host tells which one does not.
  -/
  slots : ((memoryAt filled own.memory).holds pointerSlot.toNat 4 ∧
      (memoryAt filled own.memory).holds lengthSlot.toNat 4 ∧
      ∃ s', answerWith own call bytes pointerSlot lengthSlot s = .value () s' ∧
        own.Course call [.writes pointerSlot (Word.bytes pointer),
          .writes lengthSlot (Word.bytes (UInt32.ofNat bytes.length))] filled s') ∨
    ∃ slot s', (slot = pointerSlot ∨ slot = lengthSlot) ∧
      ¬ (memoryAt filled own.memory).holds slot.toNat 4 ∧
      answerWith own call bytes pointerSlot lengthSlot s =
        .stop (.raised (.slotOutOfBounds slot.toInt32)) s'

section

variable {own : Allocator} {call : GuestCall} {bytes : Bytes} {s filled : Store guests}
  {pointer : Word}

theorem writeSlot_cases (memory : Nat) (slot value : Word) (s : Store guests) :
    ((memoryAt s memory).holds slot.toNat 4 ∧ ∃ s', writeSlot memory slot value s = .value () s') ∨
      ¬ (memoryAt s memory).holds slot.toNat 4 ∧ writeSlot memory slot value s =
        .stop (.raised (.slotOutOfBounds slot.toInt32)) s := by
  unfold writeSlot writeAt
  rw [Run.store_bind, Wasm.Memory.write?]
  have hlength : (Word.bytes value).length = 4 := rfl
  rw [hlength]
  by_cases inside : (memoryAt s memory).holds slot.toNat 4
  · rw [if_pos inside]
    exact .inl ⟨inside, _, rfl⟩
  · rw [if_neg inside]
    exact .inr ⟨inside, rfl⟩

theorem answerArithmetic (pointerSlot lengthSlot : Word)
    (handed : own.write call bytes s = .value pointer filled) :
    AnswerArithmetic own call bytes pointerSlot lengthSlot s pointer filled := by
  obtain ⟨length, inside⟩ := Allocator.exact_of_write handed
  have hanswer : answerWith own call bytes pointerSlot lengthSlot s =
      (writeSlot own.memory pointerSlot pointer >>= fun _ =>
        writeSlot own.memory lengthSlot (UInt32.ofNat bytes.length)) filled :=
    Run.bind_of_value handed _
  refine ⟨length, inside, ?_⟩
  rw [hanswer]
  obtain ⟨first, s₁, hfirst⟩ | ⟨outside, hstop⟩ :=
    writeSlot_cases own.memory pointerSlot pointer filled
  · have writes : own.Does call (.writes pointerSlot (Word.bytes pointer)) filled s₁ :=
      Allocator.writeAt_eq_value.1 hfirst
    have same := writes.holds.2
    rw [Run.bind_of_value hfirst]
    obtain ⟨second, s₂, hsecond⟩ | ⟨outside, hstop⟩ :=
      writeSlot_cases own.memory lengthSlot (UInt32.ofNat bytes.length) s₁
    · rw [Wasm.Memory.holds, same] at second
      exact .inl ⟨first, second, s₂, hsecond,
        .step writes (Allocator.course_single.2 (Allocator.writeAt_eq_value.1 hsecond))⟩
    · rw [Wasm.Memory.holds, same] at outside
      exact .inr ⟨lengthSlot, s₁, .inr rfl, outside, hstop⟩
  · exact .inr ⟨pointerSlot, filled, .inl rfl, outside, Run.bind_of_stop hstop _⟩

end

/-- The numbers and the ranges of a sibling call. -/
def SiblingArithmetic (call : GuestCall) (module function : String) (caller : Option Nat)
    (input inputLength pointerSlot lengthSlot : Word) (s : Store guests) : Prop :=
  -- its input lies inside and has the length told; the output of the sibling is the answer
  (∃ own target sent output served,
    Buffered (memoryAt s own.memory) input inputLength sent ∧ Stands inputLength sent.length ∧
    callExport target call function sent
      (noted (.sibling module function (s.data.directory.get? module)) s) =
        .value (.ok output) served ∧
    callSibling module function call caller input inputLength pointerSlot lengthSlot s =
      (answerWith own call output.bytes pointerSlot lengthSlot >>= fun _ =>
        pure output.status) served ∧
    ∀ pointer filled, own.write call output.bytes served = .value pointer filled →
      AnswerArithmetic own call output.bytes pointerSlot lengthSlot served pointer filled) ∨
  ∃ why s', callSibling module function call caller input inputLength pointerSlot lengthSlot s =
    .stop why s' ∧ StopsFor call why

/-- The numbers and the ranges of handing out the parameters of a call. -/
def ParametersArithmetic (call : GuestCall) (caller : Option Nat) (pointerSlot lengthSlot : Word)
    (s : Store guests) : Prop :=
  let text := Text.bytes s.data.parameters.text
  (∃ own, handOutParameters call caller pointerSlot lengthSlot s =
      (answerWith own call text pointerSlot lengthSlot >>= fun _ => note (.parameters text)) s ∧
    ∀ pointer filled, own.write call text s = .value pointer filled →
      AnswerArithmetic own call text pointerSlot lengthSlot s pointer filled) ∨
  ∃ fault, handOutParameters call caller pointerSlot lengthSlot s = .stop (.raised fault) s

theorem parametersArithmetic (call : GuestCall) (caller : Option Nat)
    (pointerSlot lengthSlot : Word) (s : Store guests) :
    ParametersArithmetic call caller pointerSlot lengthSlot s := by
  unfold ParametersArithmetic handOutParameters
  rw [Run.store_bind, Run.bind_apply, Tolerant.callingAllocator_apply]
  cases Allocator.ofCaller s ((caller.bind (s.instances[·]?)).getD {}) with
  | ok own =>
    exact .inl ⟨own, rfl, fun pointer filled => answerArithmetic pointerSlot lengthSlot⟩
  | error fault => exact .inr ⟨fault, rfl⟩

/-- A sibling call that does not stop before has the output of the sibling as its answer. -/
theorem callSibling_cases (call : GuestCall) (module function : String) (caller : Option Nat)
    (input inputLength pointerSlot lengthSlot : Word) (s : Store guests) :
    (∃ own target sent output served,
      Buffered (memoryAt s own.memory) input inputLength sent ∧
      callExport target call function sent
        (noted (.sibling module function (s.data.directory.get? module)) s) =
          .value (.ok output) served ∧
      callSibling module function call caller input inputLength pointerSlot lengthSlot s =
        (answerWith own call output.bytes pointerSlot lengthSlot >>= fun _ =>
          pure output.status) served) ∨
    ∃ why s', callSibling module function call caller input inputLength pointerSlot lengthSlot s =
      .stop why s' := by
  rw [callSibling_apply function rfl]
  split
  · exact .inr ⟨_, _, rfl⟩
  · next target _ =>
    split
    · exact .inr ⟨_, _, rfl⟩
    · next own _ =>
      split
      · exact .inr ⟨_, _, rfl⟩
      · next sent hread =>
        split
        · exact .inr ⟨_, _, rfl⟩
        · exact .inr ⟨_, _, rfl⟩
        · next output served hrun =>
          exact .inl ⟨own, target, sent, output, served, bufferIn_eq_ok.1 hread, hrun, rfl⟩

theorem siblingArithmetic (call : GuestCall) (module function : String) (caller : Option Nat)
    (input inputLength pointerSlot lengthSlot : Word) (s : Store guests) :
    SiblingArithmetic call module function caller input inputLength pointerSlot lengthSlot s := by
  have accounted : Accounted call (callSibling module function call caller input inputLength
      pointerSlot lengthSlot) :=
    .of_callSibling module function caller input inputLength pointerSlot lengthSlot
  obtain ⟨own, target, sent, output, served, read, ran, answers⟩ | ⟨why, s', stops⟩ :=
    callSibling_cases call module function caller input inputLength pointerSlot lengthSlot s
  · exact .inl ⟨own, target, sent, output, served, read, read.stands, ran, answers,
      fun pointer filled => answerArithmetic pointerSlot lengthSlot⟩
  · exact .inr ⟨why, s', stops, accounted.stopsFor stops⟩

/-! ## Slots about 2 GiB -/

/-- A module whose allocator gives an address, in the encoding of an integer, for buffers of 8
bytes, and whose memory has more than 2 GiB. -/
def distant (address : Bytes) : Bytes :=
  [0, 97, 115, 109, 1, 0, 0, 0, 1, 36, 6, 96, 1, 127, 1, 127, 96, 2, 127, 127, 0, 96, 4, 127, 127,
    127, 127, 1, 127, 96, 5, 127, 127, 127, 127, 127, 0, 96, 2, 127, 127, 1, 127, 96, 0, 0, 3, 4, 3,
    0, 1, 2, 5, 5, 1, 0, 129, 128, 2, 6, 8, 1, 127, 1, 65, 128, 192, 0, 11, 7, 38, 4, 6, 109, 101,
    109, 111, 114, 121, 2, 0, 8, 97, 108, 108, 111, 99, 97, 116, 101, 0, 0, 10, 100, 101, 97, 108,
    108, 111, 99, 97, 116, 101, 0, 1, 1, 102, 0, 2, 10, 30, 3, 20, 0, 32, 0, 65, 8, 70, 4, 127, 65]
    ++ address ++
  [5, 65, 128, 8, 11, 11, 2, 0, 11, 4, 0, 65, 0, 11, 0, 46, 15, 105, 110, 116, 101, 114, 102, 97,
    99, 101, 45, 116, 121, 112, 101, 115, 123, 34, 102, 117, 110, 99, 116, 105, 111, 110, 115, 34,
    58, 32, 91, 123, 34, 110, 97, 109, 101, 34, 58, 32, 34, 102, 34, 125, 93, 125]

/-- The places of the input and of the slots and the pages of the memory when the host calls a
function of a service of one module and has filled both buffers. -/
def filling (bytes input : Bytes) : Option (Word × Word × Nat) :=
  let s := standing (lone bytes)
  match Allocator.ofInstance s (s.instances.getD 1 {}) with
  | .error _ => none
  | .ok a =>
    match a.write hostCall input s with
    | .stop .. => none
    | .value inputAt filled =>
      match a.write hostCall emptySlots filled with
      | .stop .. => none
      | .value slots begun => some (inputAt, slots, (memoryAt begun a.memory).pages)

theorem exists_of_filling {bytes input : Bytes} {inputAt slots : Word} {pages : Nat}
    (h : filling bytes input = some (inputAt, slots, pages)) : ∃ a filled begun,
      Allocator.ofInstance (standing (lone bytes)) ((standing (lone bytes)).instances.getD 1 {}) =
        .ok a ∧
      a.write hostCall input (standing (lone bytes)) = .value inputAt filled ∧
      a.write hostCall emptySlots filled = .value slots begun ∧
      (memoryAt begun a.memory).pages = pages := by
  unfold filling at h
  dsimp only at h
  split at h
  · cases h
  · next a hallocator =>
    split at h
    · cases h
    · next inputAt' filled handed =>
      split at h
      · cases h
      · next slots' begun reserved =>
        cases h
        exact ⟨a, filled, begun, hallocator, handed, reserved, rfl⟩

/-- A registry whose service `s` consists of such a module. -/
def hosting (address : Bytes) : Registry (Engine.controlRuntime {}) :=
  let started := (Registry.uninitialized.init [0, 97, 115, 109, 1, 0, 0, 0]).registry
  (started.createService ⟨"s", [⟨"m", .owned (distant address), {}⟩], none⟩ .total).registry

/-! ## The arithmetic of the host -/

/-- **The host computes exactly**, whatever guest it calls by `call`. The lengths that it passes,
the address of the second slot of a call and the ranges that it reads and writes are right, or it
tells a fault, unless guest code does not come back. There is one exception: where the address of
the second slot passes the greatest signed number, the host breaks down. -/
theorem guest_arithmetic (call : GuestCall) :
    (∀ a function input s inputAt filled slots begun,
      a.write call input s = .value inputAt filled →
      a.write call emptySlots filled = .value slots begun →
      (memoryAt begun a.memory).pages ≤ Wasm.maxPages →
        ExportArithmetic a call function input s inputAt slots begun) ∧
    (∀ module function caller input inputLength pointerSlot lengthSlot s,
      SiblingArithmetic call module function caller input inputLength pointerSlot lengthSlot s) ∧
    (∀ caller pointerSlot lengthSlot s, ParametersArithmetic call caller pointerSlot lengthSlot s) ∧
    (∀ a function input s why s', runExport a call function input s = .stop why s' →
      StopsFor call why) ∧
    (∀ module function caller input inputLength pointerSlot lengthSlot s why s',
      callSibling module function call caller input inputLength pointerSlot lengthSlot s =
        .stop why s' → StopsFor call why) ∧
    ∀ caller pointerSlot lengthSlot s why s',
      handOutParameters call caller pointerSlot lengthSlot s = .stop why s' → StopsFor call why :=
  ⟨fun _ _ _ _ _ _ _ _ handed reserved bounded => exportArithmetic handed reserved bounded,
    siblingArithmetic call, parametersArithmetic call,
    fun a function input _ _ _ => (Accounted.of_runExport a function input).stopsFor,
    fun module function caller input inputLength pointerSlot lengthSlot _ _ _ =>
      (Accounted.of_callSibling module function caller input inputLength pointerSlot
        lengthSlot).stopsFor,
    fun caller pointerSlot lengthSlot _ _ _ =>
      (Accounted.of_handOutParameters caller pointerSlot lengthSlot).stopsFor⟩

/-- Slots above 2 GiB: their addresses are negative as signed numbers. -/
theorem guest_arithmetic_distant : ∃ a inputAt slots filled begun,
    let s := standing (lone (distant [129, 128, 128, 128, 120]))
    exportedFunction? (s.instances.getD 1 {}) "f" = some 4 ∧
      a.write hostCall [91, 93] s = .value inputAt filled ∧
      a.write hostCall emptySlots filled = .value slots begun ∧
      (memoryAt begun a.memory).pages ≤ Wasm.maxPages ∧ slots.toInt32.toInt = -0x7FFFFFFF ∧
      ExportArithmetic a hostCall 4 [91, 93] s inputAt slots begun := by
  have hfilling : filling (distant [129, 128, 128, 128, 120]) [91, 93] =
      some (1024, 0x80000001, 32769) := by decide +kernel
  have hexported : exportedFunction? ((standing (lone (distant [129, 128, 128, 128, 120]))
      ).instances.getD 1 {}) "f" = some 4 := by decide +kernel
  obtain ⟨a, filled, begun, -, handed, reserved, hpages⟩ := exists_of_filling hfilling
  have bounded : (memoryAt begun a.memory).pages ≤ Wasm.maxPages := hpages ▸ by decide
  exact ⟨a, _, _, filled, begun, hexported, handed, reserved, bounded, by decide,
    (guest_arithmetic hostCall).1 a 4 [91, 93] _ _ _ _ _ handed reserved bounded⟩

/-- Slots just below 2 GiB: the address of the second one is inside, but no signed number, so that
the host breaks down. -/
theorem distant_breaks : ∃ a inputAt slots filled begun,
    let s := standing (lone (distant [252, 255, 255, 255, 7]))
    a.write hostCall [91, 93] s = .value inputAt filled ∧
      a.write hostCall emptySlots filled = .value slots begun ∧
      (memoryAt begun a.memory).pages ≤ Wasm.maxPages ∧
      (memoryAt begun a.memory).holds (slots.toNat + 4) 4 ∧
      (slots + slotSize).toInt32.toInt ≠ slots.toInt32.toInt + 4 ∧
      (∀ function, runExport a hostCall function [91, 93] s = .stop .broken begun) ∧
      ((hosting [252, 255, 255, 255, 7]).callService "s" "f" (.positional []) {}).result =
        none := by
  have hfilling : filling (distant [252, 255, 255, 255, 7]) [91, 93] =
      some (1024, 0x7FFFFFFC, 32769) := by decide +kernel
  have hlost : ((hosting [252, 255, 255, 255, 7]).callService "s" "f" (.positional []) {}
      ).result.isNone = true := by decide +kernel
  obtain ⟨a, filled, begun, -, handed, reserved, hpages⟩ := exists_of_filling hfilling
  have bounded : (memoryAt begun a.memory).pages ≤ Wasm.maxPages := hpages ▸ by decide
  have overflows : Overflows 0x7FFFFFFC := by decide
  have holds : (memoryAt begun a.memory).holds ((0x7FFFFFFC : Word).toNat + 4) 4 := by
    rw [Wasm.Memory.holds, Wasm.Memory.size, hpages]
    decide
  exact ⟨a, _, _, filled, begun, handed, reserved, bounded, holds, by decide,
    fun function => ((exportArithmetic handed reserved bounded).overflow overflows).2,
    Option.isNone_iff_eq_none.1 hlost⟩

end ModuleHost
