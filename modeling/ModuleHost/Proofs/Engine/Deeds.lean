import ModuleHost.Proofs.Engine.Reexports

/-!
# What the host does in a call

The host calls an export by a few steps: it asks the guest's allocator for buffers, writes into
them, runs functions and hands the buffers back. Guest code runs in between.

* `Deed`, `Allocator.Does` — a step; what it does to a store;
* `Allocator.Course` — steps one after another;
* `Allocator.write_eq_value`, `Allocator.answerWith_eq_value` — buffers that the host fills;
* `Allocator.freeAll_eq_value`, `Allocator.freeAll_eq_stop` — buffers that it hands back;
* `Produced`, `OutputFault`, `produced_or_fault` — a memory holds an output or it does not;
* `callSibling_apply` — the parts of a sibling call;
* `Episode`, `Episode.Of` — a call up to the end of its function;
* `Episode.exists_of_runExport`, `Episode.Of.runExport_eq` — a call that completes has come to
  that end, and one that has come to it goes on by taking the output over;
* `Episode.takeOver_eq_value`, `Episode.takeOver_eq_stop` — when that completes, why it fails;
* `Completion`, **`callExport_eq_ok_iff`** — all steps of a call that completes.
-/

namespace ModuleHost

open Wasm (Word Store Run Instance Apart)

/-! ## Steps -/

/-- What the host does to a guest that it calls. -/
inductive Deed where
  /-- It asks for a buffer and gets a pointer. -/
  | allocates (length : Nat) (pointer : Word)
  /-- It writes bytes to where a pointer points. -/
  | writes (pointer : Word) (bytes : Bytes)
  | runs (function : Nat) (arguments results : List Word)
  /-- It hands a buffer back. -/
  | frees (pointer length : Word)

namespace Allocator

variable (a : Allocator) (call : GuestCall)

/-- A step leads from one store to another. -/
inductive Does : Deed → Store guests → Store guests → Prop
  | allocates {length : Nat} {results : List Word} {s s' : Store guests}
      (fits : length ≤ maxLength)
      (ran : call a.allocate [UInt32.ofNat length] s = .value results s') :
      Does (.allocates length (results.headD 0)) s
        (noted (.allocated a.memory (results.headD 0) length) s')
  | writes {pointer : Word} {bytes : Bytes} {s : Store guests} {written : Wasm.Memory}
      (fits : (memoryAt s a.memory).write? pointer.toNat bytes = some written) :
      Does (.writes pointer bytes) s { s with memories := s.memories.set a.memory written }
  | runs {function : Nat} {arguments results : List Word} {s s' : Store guests}
      (ran : call function arguments s = .value results s') :
      Does (.runs function arguments results) s s'
  | frees {f : Nat} {pointer length : Word} {results : List Word} {s s' : Store guests}
      (takes : a.deallocate = some f)
      (ran : call f [pointer, length] (noted (.freed a.memory pointer length) s) =
        .value results s') :
      Does (.frees pointer length) s s'

/-- Steps lead from one store to another. -/
inductive Course : List Deed → Store guests → Store guests → Prop
  | done (s : Store guests) : Course [] s s
  | step {deed : Deed} {deeds : List Deed} {s s₁ s' : Store guests} (first : Does a call deed s s₁)
      (rest : Course deeds s₁ s') : Course (deed :: deeds) s s'

variable {a call} {s s₁ s' : Store guests}

theorem does_allocates {length : Nat} {pointer : Word} :
    a.Does call (.allocates length pointer) s s' ↔ length ≤ maxLength ∧ ∃ results s₁,
      call a.allocate [UInt32.ofNat length] s = .value results s₁ ∧ pointer = results.headD 0 ∧
      s' = noted (.allocated a.memory pointer length) s₁ := by
  constructor
  · intro h
    cases h with
    | allocates fits ran => exact ⟨fits, _, _, ran, rfl, rfl⟩
  · rintro ⟨fits, results, s₁, ran, rfl, rfl⟩
    exact .allocates fits ran

theorem does_writes {pointer : Word} {bytes : Bytes} :
    a.Does call (.writes pointer bytes) s s' ↔
      ∃ written, (memoryAt s a.memory).write? pointer.toNat bytes = some written ∧
        s' = { s with memories := s.memories.set a.memory written } := by
  constructor
  · intro h
    cases h with
    | writes fits => exact ⟨_, fits, rfl⟩
  · rintro ⟨written, fits, rfl⟩
    exact .writes fits

theorem course_cons {deed : Deed} {deeds : List Deed} :
    a.Course call (deed :: deeds) s s' ↔
      ∃ s₁, a.Does call deed s s₁ ∧ a.Course call deeds s₁ s' :=
  ⟨fun | .step first rest => ⟨_, first, rest⟩, fun ⟨_, first, rest⟩ => .step first rest⟩

theorem course_nil : a.Course call [] s s' ↔ s' = s :=
  ⟨fun | .done _ => rfl, fun h => h ▸ .done _⟩

theorem course_append {deeds deeds' : List Deed} :
    a.Course call (deeds ++ deeds') s s' ↔
      ∃ s₁, a.Course call deeds s s₁ ∧ a.Course call deeds' s₁ s' := by
  induction deeds generalizing s with
  | nil => simp [course_nil]
  | cons deed deeds ih =>
    rw [List.cons_append, course_cons]
    constructor
    · rintro ⟨s₂, first, rest⟩
      obtain ⟨s₁, before, behind⟩ := ih.1 rest
      exact ⟨s₁, .step first before, behind⟩
    · rintro ⟨s₁, before, behind⟩
      obtain ⟨s₂, first, rest⟩ := course_cons.1 before
      exact ⟨s₂, first, ih.2 ⟨s₁, rest, behind⟩⟩

theorem course_single {deed : Deed} : a.Course call [deed] s s' ↔ a.Does call deed s s' := by
  simp [course_cons, course_nil]

/-! ## Buffers -/

theorem writeAt_eq_value {pointer : Word} {bytes : Bytes} {fault : AbiFault} :
    writeAt a.memory pointer bytes fault s = .value () s' ↔
      a.Does call (.writes pointer bytes) s s' := by
  rw [does_writes]
  constructor
  · exact writeAt_value
  · rintro ⟨written, fits, rfl⟩
    unfold writeAt
    rw [Run.store_bind, fits]
    rfl

theorem write_eq_value {bytes : Bytes} {pointer : Word} :
    a.write call bytes s = .value pointer s' ↔
      a.Course call [.allocates bytes.length pointer, .writes pointer bytes] s s' := by
  simp only [course_cons, course_nil, exists_eq_right']
  constructor
  · intro h
    unfold Allocator.write at h
    split at h
    · cases h
    · next hlength =>
      obtain ⟨results, s₁, ran, h⟩ := Run.bind_eq_value.1 h
      rw [note_bind] at h
      obtain ⟨_, s₂, hwrite, h⟩ := Run.bind_eq_value.1 h
      cases h
      exact ⟨_, .allocates (Nat.le_of_not_lt hlength) ran, writeAt_eq_value.1 hwrite⟩
  · rintro ⟨s₁, allocates, writes⟩
    cases allocates with
    | allocates hlength ran =>
      unfold Allocator.write
      rw [if_neg (Nat.not_lt_of_le hlength), Run.bind_of_value ran, note_bind,
        Run.bind_of_value (writeAt_eq_value.2 writes)]
      rfl

/-- Bytes that are handed to a guest are written into a new buffer, then its pointer and its length
into two slots. -/
theorem answerWith_eq_value {bytes : Bytes} {pointerSlot lengthSlot : Word} :
    answerWith a call bytes pointerSlot lengthSlot s = .value () s' ↔ ∃ pointer,
      a.Course call [.allocates bytes.length pointer, .writes pointer bytes,
        .writes pointerSlot (Word.bytes pointer),
        .writes lengthSlot (Word.bytes (UInt32.ofNat bytes.length))] s s' := by
  unfold answerWith writeSlot
  constructor
  · intro h
    obtain ⟨pointer, s₁, hbuffer, h⟩ := Run.bind_eq_value.1 h
    obtain ⟨_, s₂, hpointer, hlength⟩ := Run.bind_eq_value.1 h
    have slots : a.Course call [.writes pointerSlot (Word.bytes pointer),
        .writes lengthSlot (Word.bytes (UInt32.ofNat bytes.length))] s₁ s' :=
      .step (writeAt_eq_value.1 hpointer) (course_single.2 (writeAt_eq_value.1 hlength))
    exact ⟨pointer, course_append.2 ⟨s₁, write_eq_value.1 hbuffer, slots⟩⟩
  · rintro ⟨pointer, course⟩
    simp only [course_cons, course_nil, exists_eq_right'] at course
    obtain ⟨reserved, allocates, s₁, writes, s₂, hpointer, hlength⟩ := course
    have buffer : a.write call bytes s = .value pointer s₁ :=
      write_eq_value.2 (.step allocates (course_single.2 writes))
    rw [Run.bind_of_value buffer, Run.bind_of_value (writeAt_eq_value.2 hpointer)]
    exact writeAt_eq_value.2 hlength

theorem memory_of_writes {pointer pointer' pointer'' : Word} {bytes bytes' bytes'' : Bytes}
    (nonempty : bytes' ≠ []) (h : a.Course call
      [.writes pointer bytes, .writes pointer' bytes', .writes pointer'' bytes''] s s') :
    ∃ m₁ m₂, (memoryAt s a.memory).write? pointer.toNat bytes = some m₁ ∧
      m₁.write? pointer'.toNat bytes' = some m₂ ∧
      m₂.write? pointer''.toNat bytes'' = some (memoryAt s' a.memory) := by
  simp only [course_cons, course_nil, exists_eq_right', does_writes] at h
  obtain ⟨_, ⟨m₁, h₁, rfl⟩, _, ⟨m₂, h₂, rfl⟩, m₃, h₃, rfl⟩ := h
  exact ⟨m₁, m₂, written_in_turn nonempty h₁ h₂ h₃⟩

/-- Hands buffers back, the first one first. -/
def freeAll (a : Allocator) (call : GuestCall) : List (Word × Word) → Guest Unit
  | [] => pure ()
  | (pointer, length) :: buffers => do
    a.free call pointer length
    a.freeAll call buffers

/-- The steps by which buffers are handed back; none if nothing takes them back. -/
def freeing (a : Allocator) (buffers : List (Word × Word)) : List Deed :=
  if a.deallocate.isSome then buffers.map fun b => .frees b.1 b.2 else []

theorem freeing_of_some {f : Nat} (h : a.deallocate = some f) (buffers : List (Word × Word)) :
    a.freeing buffers = buffers.map fun b => .frees b.1 b.2 := by
  rw [freeing, h, Option.isSome_some, if_pos rfl]

theorem free_of_some {f : Nat} (h : a.deallocate = some f) (pointer length : Word) :
    a.free call pointer length s = match call f [pointer, length]
        (noted (.freed a.memory pointer length) s) with
      | .value _ s' => .value () s'
      | .stop why s' => .stop why s' := by
  have hfree : a.free call pointer length s = (call f [pointer, length] >>= fun _ => pure ())
      (noted (.freed a.memory pointer length) s) := by
    unfold free
    rw [h]
    rfl
  rw [hfree, Run.bind_apply]
  cases call f [pointer, length] (noted (.freed a.memory pointer length) s) <;> rfl

theorem freeAll_of_none (h : a.deallocate = none) (buffers : List (Word × Word)) :
    a.freeAll call buffers s = .value () s := by
  induction buffers with
  | nil => rfl
  | cons buffer buffers ih =>
    have hfree : a.free call buffer.1 buffer.2 s = .value () s := by
      unfold free
      rw [h]
      rfl
    rw [freeAll, Run.bind_of_value hfree]
    exact ih

theorem freeAll_eq_value {buffers : List (Word × Word)} :
    a.freeAll call buffers s = .value () s' ↔ a.Course call (a.freeing buffers) s s' := by
  cases hd : a.deallocate with
  | none =>
    rw [freeAll_of_none hd, freeing, hd, Option.isSome_none, if_neg Bool.false_ne_true, course_nil]
    exact ⟨fun h => by cases h; rfl, fun h => h ▸ rfl⟩
  | some f =>
    rw [freeing_of_some hd]
    induction buffers generalizing s with
    | nil =>
      rw [List.map_nil, course_nil]
      exact ⟨fun h => by cases h; rfl, fun h => h ▸ rfl⟩
    | cons buffer buffers ih =>
      rw [freeAll, Run.bind_apply, free_of_some hd, List.map_cons, course_cons]
      constructor
      · intro h
        cases ran : call f [buffer.1, buffer.2] (noted (.freed a.memory buffer.1 buffer.2) s) with
        | stop why s₁ =>
          rw [ran] at h
          cases h
        | value results s₁ =>
          rw [ran] at h
          exact ⟨s₁, .frees hd ran, ih.1 h⟩
      · rintro ⟨s₁, frees, rest⟩
        cases frees with
        | frees takes ran =>
          cases hd.symm.trans takes
          rw [ran]
          exact ih.2 rest

/-- Handing back the buffers `buffers` stops at one of them. -/
structure StopsFreeing (a : Allocator) (call : GuestCall) (buffers : List (Word × Word))
    (s : Store guests) (why : GuestStop) (s' : Store guests) : Prop where
  stops : ∃ f before pointer length behind s₁, a.deallocate = some f ∧
    buffers = before ++ (pointer, length) :: behind ∧ a.Course call (a.freeing before) s s₁ ∧
    call f [pointer, length] (noted (.freed a.memory pointer length) s₁) = .stop why s'

theorem freeAll_eq_stop {buffers : List (Word × Word)} {why : GuestStop} :
    a.freeAll call buffers s = .stop why s' ↔ a.StopsFreeing call buffers s why s' := by
  cases hd : a.deallocate with
  | none =>
    rw [freeAll_of_none hd]
    refine ⟨(nomatch ·), ?_⟩
    rintro ⟨f, _, _, _, _, _, hf, -⟩
    cases hd.symm.trans hf
  | some f =>
    induction buffers generalizing s with
    | nil =>
      refine ⟨(nomatch ·), ?_⟩
      rintro ⟨_, before, _, _, _, _, -, hsplit, -⟩
      exact absurd hsplit.symm (List.append_ne_nil_of_right_ne_nil before (List.cons_ne_nil _ _))
    | cons buffer buffers ih =>
      rw [freeAll, Run.bind_apply, free_of_some hd]
      constructor
      · intro h
        cases ran : call f [buffer.1, buffer.2] (noted (.freed a.memory buffer.1 buffer.2) s) with
        | stop why' s₁ =>
          rw [ran] at h
          cases h
          refine ⟨f, [], buffer.1, buffer.2, buffers, s, hd, rfl, ?_, ran⟩
          rw [freeing_of_some hd]
          exact .done s
        | value results s₁ =>
          rw [ran] at h
          obtain ⟨_, before, pointer, length, behind, s₂, hf, rfl, course, stops⟩ := ih.1 h
          refine ⟨f, buffer :: before, pointer, length, behind, s₂, hd, rfl, ?_, ?_⟩
          · rw [freeing_of_some hd] at course ⊢
            exact .step (.frees hd ran) course
          · cases hd.symm.trans hf
            exact stops
      · rintro ⟨g, before, pointer, length, behind, s₂, hg, hsplit, course, stops⟩
        cases hd.symm.trans hg
        rw [freeing_of_some hd] at course
        cases before with
        | nil =>
          cases hsplit
          cases course_nil.1 course
          rw [stops]
        | cons first before =>
          cases hsplit
          obtain ⟨s₁, frees, rest⟩ := course_cons.1 course
          cases frees with
          | frees takes ran =>
            cases hd.symm.trans takes
            rw [ran]
            refine ih.2 ⟨f, before, pointer, length, behind, s₂, hd, rfl, ?_, stops⟩
            rwa [freeing_of_some hd]

end Allocator

/-! ## The output -/

/-- The word in a slot of a memory, if the slot lies inside. -/
def wordIn? (memory : Wasm.Memory) (pointer : Word) : Option Word :=
  (memory.read? pointer.toNat 4).map Word.ofBytes

/-- A memory has a buffer of some bytes where a pointer points; an empty one may be anywhere. -/
structure Buffered (memory : Wasm.Memory) (pointer length : Word) (bytes : Bytes) : Prop where
  nonnegative : 0 ≤ length.toInt32
  inside : length ≠ 0 → memory.holds pointer.toNat length.toNat
  bytes : bytes = memory.slice pointer.toNat length.toNat

/-- A memory holds an output: two slots tell its place and its length, and the bytes are there. -/
structure Produced (memory : Wasm.Memory) (slots lengthSlot outputAt outputLength : Word)
    (bytes : Bytes) : Prop extends Buffered memory outputAt outputLength bytes where
  pointer : wordIn? memory slots = some outputAt
  length : wordIn? memory lengthSlot = some outputLength

/-- Why a memory holds no output: a slot lies outside, the length is negative, or there are bytes
that lie outside. -/
inductive OutputFault (memory : Wasm.Memory) (slots lengthSlot : Word) : AbiFault → Prop
  | pointerSlot (outside : wordIn? memory slots = none) :
      OutputFault memory slots lengthSlot (.slotOutOfBounds slots.toInt32)
  | lengthSlot {outputAt : Word} (pointer : wordIn? memory slots = some outputAt)
      (outside : wordIn? memory lengthSlot = none) :
      OutputFault memory slots lengthSlot (.slotOutOfBounds lengthSlot.toInt32)
  | negative {outputAt outputLength : Word} (pointer : wordIn? memory slots = some outputAt)
      (length : wordIn? memory lengthSlot = some outputLength)
      (negative : outputLength.toInt32 < 0) :
      OutputFault memory slots lengthSlot (.negativeLength outputLength.toInt32)
  | outside {outputAt outputLength : Word} (pointer : wordIn? memory slots = some outputAt)
      (length : wordIn? memory lengthSlot = some outputLength)
      (nonnegative : 0 ≤ outputLength.toInt32) (nonempty : outputLength ≠ 0)
      (outside : ¬ memory.holds outputAt.toNat outputLength.toNat) :
      OutputFault memory slots lengthSlot
        (.bufferOutOfBounds outputAt.toNat (outputAt.toNat + outputLength.toNat))

/-- The buffers that the host hands back when a call completes, the first one first. -/
def handedBack (inputAt length slots outputAt outputLength : Word) : List (Word × Word) :=
  (if 0 < outputLength.toInt32 then [(outputAt, outputLength)] else []) ++
    [(slots, 8), (inputAt, length)]

section

variable {memory : Wasm.Memory} {slots lengthSlot outputAt outputLength : Word} {bytes : Bytes}

theorem produced_or_fault (memory : Wasm.Memory) (slots lengthSlot : Word) :
    (∃ outputAt outputLength bytes,
      Produced memory slots lengthSlot outputAt outputLength bytes) ∨
      ∃ fault, OutputFault memory slots lengthSlot fault := by
  cases hpointer : wordIn? memory slots with
  | none => exact .inr ⟨_, .pointerSlot hpointer⟩
  | some outputAt =>
    cases hlength : wordIn? memory lengthSlot with
    | none => exact .inr ⟨_, .lengthSlot hpointer hlength⟩
    | some outputLength =>
      by_cases negative : outputLength.toInt32 < 0
      · exact .inr ⟨_, .negative hpointer hlength negative⟩
      have nonnegative : 0 ≤ outputLength.toInt32 := Int32.not_lt.1 negative
      by_cases inside : outputLength ≠ 0 → memory.holds outputAt.toNat outputLength.toNat
      · exact .inl ⟨_, _, _, ⟨nonnegative, inside, rfl⟩, hpointer, hlength⟩
      · rw [Classical.not_imp] at inside
        exact .inr ⟨_, .outside hpointer hlength nonnegative inside.1 inside.2⟩

theorem readSlot_of_some {m : Nat} {pointer w : Word} {s : Store guests}
    (h : wordIn? (memoryAt s m) pointer = some w) : readSlot m pointer s = .value w s := by
  obtain ⟨bytes, hread, rfl⟩ := Option.map_eq_some_iff.1 h
  rw [readSlot, Run.store_bind, hread]
  rfl

theorem readSlot_of_none {m : Nat} {pointer : Word} {s : Store guests}
    (h : wordIn? (memoryAt s m) pointer = none) :
    readSlot m pointer s = .stop (.raised (.slotOutOfBounds pointer.toInt32)) s := by
  rw [readSlot, Run.store_bind, Option.map_eq_none_iff.1 h]
  rfl

theorem bufferIn_eq_ok {pointer length : Word} :
    bufferIn memory pointer length = .ok bytes ↔ Buffered memory pointer length bytes := by
  unfold bufferIn
  constructor
  · intro h
    split at h
    · cases h
    · next hnegative =>
      have nonnegative : 0 ≤ length.toInt32 := Int32.not_lt.1 hnegative
      split at h
      · next hzero =>
        cases h
        exact ⟨nonnegative, fun hne => absurd hzero hne, by rw [hzero]; rfl⟩
      · unfold Wasm.Memory.read? at h
        split at h
        · next hread =>
          cases h
          split at hread
          · next holds =>
            cases hread
            exact ⟨nonnegative, fun _ => holds, rfl⟩
          · cases hread
        · cases h
  · intro h
    rw [if_neg (Int32.not_lt.2 h.nonnegative), h.bytes]
    by_cases hzero : length = 0
    · rw [if_pos hzero, hzero]
      rfl
    · rw [if_neg hzero, Wasm.Memory.read?, if_pos (h.inside hzero)]

variable {a : Allocator} {call : GuestCall} {inputAt length : Word} {results : List Word}
  {s : Store guests}

theorem readBuffer_of_produced {m : Nat}
    (h : Produced (memoryAt s m) slots lengthSlot outputAt outputLength bytes) :
    readBuffer m outputAt outputLength s = .value bytes s := by
  rw [readBuffer_apply, bufferIn_eq_ok.2 h.toBuffered, orRaise_ok]

/-- An output that is there is taken before any buffer is handed back. -/
theorem takeOver_of_produced
    (h : Produced (memoryAt s a.memory) slots lengthSlot outputAt outputLength bytes) :
    takeOver a call inputAt length slots lengthSlot results s =
      (a.freeAll call (handedBack inputAt length slots outputAt outputLength) >>= fun _ =>
        pure ⟨(results.headD 0).toInt32, bytes⟩) s := by
  unfold takeOver
  rw [Run.bind_of_value (readSlot_of_some h.pointer), Run.bind_of_value (readSlot_of_some h.length),
    Run.bind_of_value (readBuffer_of_produced h)]
  unfold handedBack
  split
  · simp only [List.cons_append, List.nil_append, Allocator.freeAll, Run.bind_assoc]
    rfl
  · simp only [List.nil_append, Allocator.freeAll, Run.bind_assoc]
    rfl

theorem takeOver_of_fault {fault : AbiFault}
    (h : OutputFault (memoryAt s a.memory) slots lengthSlot fault) :
    takeOver a call inputAt length slots lengthSlot results s = .stop (.raised fault) s := by
  unfold takeOver
  cases h with
  | pointerSlot outside => rw [Run.bind_of_stop (readSlot_of_none outside)]
  | lengthSlot pointer outside =>
    rw [Run.bind_of_value (readSlot_of_some pointer), Run.bind_of_stop (readSlot_of_none outside)]
  | @negative outputAt outputLength pointer length negative =>
    have hread : readBuffer a.memory outputAt outputLength s =
        .stop (.raised (.negativeLength outputLength.toInt32)) s := by
      rw [readBuffer_apply, bufferIn, if_pos negative]
      rfl
    rw [Run.bind_of_value (readSlot_of_some pointer), Run.bind_of_value (readSlot_of_some length),
      Run.bind_of_stop hread]
  | @outside outputAt outputLength pointer length nonnegative nonempty outside =>
    have hread : readBuffer a.memory outputAt outputLength s =
        .stop (.raised (.bufferOutOfBounds outputAt.toNat (outputAt.toNat + outputLength.toNat)))
          s := by
      rw [readBuffer_apply, bufferIn, if_neg (Int32.not_lt.2 nonnegative), if_neg nonempty,
        Wasm.Memory.read?, if_neg outside]
      rfl
    rw [Run.bind_of_value (readSlot_of_some pointer), Run.bind_of_value (readSlot_of_some length),
      Run.bind_of_stop hread]

end

/-! ## Calls -/

theorem callSibling_apply {module : String} (function : String) {s asked : Store guests}
    (h : asked = noted (.sibling module function (s.data.directory.get? module)) s)
    (call : GuestCall) (caller : Option Nat) (input inputLength pointerSlot lengthSlot : Word) :
    callSibling module function call caller input inputLength pointerSlot lengthSlot s =
      match (s.data.directory.get? module).bind (s.instances[·]?) with
      | none => .stop (.raised (.notInstantiated module)) asked
      | some target =>
        match Allocator.ofCaller asked ((caller.bind (asked.instances[·]?)).getD {}) with
        | .error fault => .stop (.raised fault) asked
        | .ok own =>
          match bufferIn (memoryAt s own.memory) input inputLength with
          | .error fault => .stop (.raised fault) asked
          | .ok sent =>
            match callExport target call function sent asked with
            | .stop why s' => .stop why s'
            | .value (.error cause) s' => .stop (.raised (.sibling cause)) s'
            | .value (.ok output) s' =>
              (answerWith own call output.bytes pointerSlot lengthSlot >>= fun _ =>
                pure output.status) s' := by
  have hmemories : ∀ place, memoryAt asked place = memoryAt s place := fun _ => h ▸ rfl
  unfold callSibling
  rw [Run.store_bind, note_bind, ← h]
  cases (s.data.directory.get? module).bind (s.instances[·]?) with
  | none => rfl
  | some target =>
    dsimp only
    rw [Run.bind_apply, Tolerant.callingAllocator_apply]
    cases Allocator.ofCaller asked ((caller.bind (asked.instances[·]?)).getD {}) with
    | error fault => rfl
    | ok own =>
      rw [orRaise_ok]
      dsimp only
      rw [Run.bind_apply, readBuffer_apply, hmemories]
      cases bufferIn (memoryAt s own.memory) input inputLength with
      | error fault => rfl
      | ok sent =>
        rw [orRaise_ok]
        dsimp only
        rw [Run.bind_apply]
        cases callExport target call function sent asked with
        | stop why s₁ => rfl
        | value called s₁ => cases called <;> rfl

/-- An instance exports a function under a name that can be called as an export, and an allocator.
-/
structure Callable (s : Store guests) (i : Instance) (name : String) (place : Nat) (a : Allocator) :
    Prop where
  exported : exportedFunction? i name = some place
  typed : hasType s place callableType
  allocator : Allocator.ofInstance s i = .ok a

theorem runCallable_apply (i : Instance) (call : GuestCall) (place : Nat) (input : Bytes)
    (s : Store guests) :
    runCallable i call place input s =
      if hasType s place callableType then
        match Allocator.ofInstance s i with
        | .ok a => runExport a call place input s
        | .error fault => .stop (.raised fault) s
      else .stop (.raised .exportType) s := by
  unfold runCallable
  rw [Run.store_bind]
  by_cases typed : hasType s place callableType
  · rw [if_pos typed, if_pos typed]
    change (orRaise (Allocator.ofInstance s i) >>= fun a => runExport a call place input) s = _
    cases Allocator.ofInstance s i <;> rfl
  · rw [if_neg typed, if_neg typed]
    rfl

/-- A call by name runs the function that is exported and tells how it stops. -/
theorem callExport_of_some {i : Instance} {name : String} {place : Nat}
    (h : exportedFunction? i name = some place) (call : GuestCall) (input : Bytes)
    (s : Store guests) :
    callExport i call name input s = match runCallable i call place input s with
      | .value output s' => .value (.ok output) s'
      | .stop why s' => toldStop name s' why := by
  unfold callExport
  rw [h]
  dsimp only
  rw [Run.bind_apply, Run.attempt]
  cases runCallable i call place input s with
  | value output s' => rfl
  | stop why s' => cases why <;> rfl

/-- A call by name completes if there is such a function and running it completes. -/
theorem callExport_eq_ok {i : Instance} {call : GuestCall} {name : String} {input : Bytes}
    {output : RawOutput} {s s' : Store guests} :
    callExport i call name input s = .value (.ok output) s' ↔
      ∃ place a, Callable s i name place a ∧ runExport a call place input s = .value output s' := by
  constructor
  · intro h
    cases exported : exportedFunction? i name with
    | none =>
      rw [callExport_of_none exported] at h
      cases h
    | some place =>
      rw [callExport_of_some exported] at h
      cases hran : runCallable i call place input s with
      | stop why s₁ =>
        rw [hran] at h
        cases why <;> cases h
      | value output' s₁ =>
        rw [hran] at h
        cases h
        rw [runCallable_apply] at hran
        split at hran
        · next typed =>
          split at hran
          · next a allocator => exact ⟨place, a, ⟨exported, typed, allocator⟩, hran⟩
          · cases hran
        · cases hran
  · rintro ⟨place, a, callable, hrun⟩
    rw [callExport_of_some callable.exported, runCallable_apply, if_pos callable.typed,
      callable.allocator]
    dsimp only
    rw [hrun]

/-- A call of an export up to the end of its function. -/
structure Episode where
  inputAt : Word
  /-- The slots for the place and the length of the output; the second one is behind the first. -/
  slots : Word
  results : List Word
  /-- The store when the input is written, -/
  filled : Store guests
  /-- when the slots are allocated, -/
  reserved : Store guests
  /-- when the function begins -/
  begun : Store guests
  /-- and when it has ended. -/
  ended : Store guests

namespace Episode

/-- The slot for the length of the output. -/
def lengthSlot (e : Episode) : Word := e.slots + slotSize

/-- What the function is called with. -/
def arguments (e : Episode) (input : Bytes) : List Word :=
  [e.inputAt, UInt32.ofNat input.length, e.slots, e.lengthSlot]

/-- The host hands the input over in two buffers of the guest and runs the function. -/
structure Of (e : Episode) (a : Allocator) (call : GuestCall) (function : Nat) (input : Bytes)
    (s : Store guests) : Prop where
  handed : a.Course call [.allocates input.length e.inputAt, .writes e.inputAt input] s e.filled
  slots : a.Does call (.allocates emptySlots.length e.slots) e.filled e.reserved
  emptied : a.Does call (.writes e.slots emptySlots) e.reserved e.begun
  behind : (slotBehind? e.slots).isSome
  ran : a.Does call (.runs function (e.arguments input) e.results) e.begun e.ended

/-- The steps up to the end of the function. -/
def deeds (e : Episode) (function : Nat) (input : Bytes) : List Deed :=
  [.allocates input.length e.inputAt, .writes e.inputAt input,
    .allocates emptySlots.length e.slots, .writes e.slots emptySlots,
    .runs function (e.arguments input) e.results]

/-- The host takes the output over when the function has ended. -/
def takeOver (e : Episode) (a : Allocator) (call : GuestCall) (input : Bytes) : Guest RawOutput :=
  ModuleHost.takeOver a call e.inputAt (UInt32.ofNat input.length) e.slots e.lengthSlot e.results

/-- The buffers that the host hands back. -/
def returned (e : Episode) (input : Bytes) (outputAt outputLength : Word) : List (Word × Word) :=
  handedBack e.inputAt (UInt32.ofNat input.length) e.slots outputAt outputLength

variable {e : Episode} {a : Allocator} {call : GuestCall} {function : Nat} {input : Bytes}
  {s s' : Store guests}

theorem lengthSlot_of_behind (h : (slotBehind? e.slots).isSome) :
    slotBehind? e.slots = some e.lengthSlot := by
  unfold slotBehind? at h ⊢
  split
  · rfl
  · next hlast =>
    rw [if_neg hlast] at h
    cases h

theorem Of.course (h : e.Of a call function input s) :
    a.Course call (e.deeds function input) s e.ended := by
  have second : a.Course call [.allocates emptySlots.length e.slots, .writes e.slots emptySlots,
      .runs function (e.arguments input) e.results] e.filled e.ended :=
    .step h.slots (.step h.emptied (Allocator.course_single.2 h.ran))
  exact Allocator.course_append.2 ⟨_, h.handed, second⟩

theorem Of.handOver_eq (h : e.Of a call function input s) :
    handOver a call input s = .value (e.inputAt, e.slots, e.lengthSlot) e.begun := by
  have hinput := Allocator.write_eq_value.2 h.handed
  have hslots : a.write call emptySlots e.filled = .value e.slots e.begun :=
    Allocator.write_eq_value.2 (.step h.slots (Allocator.course_single.2 h.emptied))
  unfold handOver
  rw [Run.bind_of_value hinput, Run.bind_of_value hslots, lengthSlot_of_behind h.behind]
  rfl

theorem Of.runExport_eq (h : e.Of a call function input s) :
    runExport a call function input s = e.takeOver a call input e.ended := by
  cases h.ran with
  | runs ran =>
    rw [runExport_apply, h.handOver_eq]
    exact Run.bind_of_value ran _

theorem exists_of_runExport {output : RawOutput}
    (h : runExport a call function input s = .value output s') :
    ∃ e : Episode, e.Of a call function input s ∧
      e.takeOver a call input e.ended = .value output s' := by
  rw [runExport_apply] at h
  cases hhanded : handOver a call input s with
  | stop why s₁ =>
    rw [hhanded] at h
    cases h
  | value handed begun =>
    rw [hhanded] at h
    obtain ⟨results, ended, ran, htake⟩ := Run.bind_eq_value.1 h
    obtain ⟨inputAt, filled, hinput, hrest⟩ := Run.bind_eq_value.1 hhanded
    obtain ⟨slots, begun', hslots, hrest⟩ := Run.bind_eq_value.1 hrest
    obtain ⟨lengthSlot, begun'', hbehind, hrest⟩ := Run.bind_eq_value.1 hrest
    cases hrest
    cases hlast : slotBehind? slots with
    | none =>
      rw [hlast] at hbehind
      cases hbehind
    | some lengthSlot' =>
      rw [hlast] at hbehind
      cases hbehind
      obtain ⟨reserved, allocates, writes⟩ :=
        Allocator.course_cons.1 (Allocator.write_eq_value.1 hslots)
      let e : Episode := ⟨inputAt, slots, results, filled, reserved, begun, ended⟩
      have behind : (slotBehind? e.slots).isSome := by
        rw [hlast]
        rfl
      obtain rfl : e.lengthSlot = lengthSlot :=
        Option.some.inj ((lengthSlot_of_behind behind).symm.trans hlast)
      exact ⟨e, ⟨Allocator.write_eq_value.1 hinput, allocates, Allocator.course_single.1 writes,
        behind, .runs ran⟩, htake⟩

theorem takeOver_eq_value {output : RawOutput} :
    e.takeOver a call input s = .value output s' ↔
      output.status = (e.results.headD 0).toInt32 ∧ ∃ outputAt outputLength,
        Produced (memoryAt s a.memory) e.slots e.lengthSlot outputAt outputLength output.bytes ∧
        a.Course call (a.freeing (e.returned input outputAt outputLength)) s s' := by
  constructor
  · intro h
    obtain ⟨outputAt, outputLength, bytes, produced⟩ | ⟨fault, hfault⟩ :=
      produced_or_fault (memoryAt s a.memory) e.slots e.lengthSlot
    · rw [takeOver, takeOver_of_produced produced] at h
      obtain ⟨_, s₁, hfree, houtput⟩ := Run.bind_eq_value.1 h
      cases houtput
      exact ⟨rfl, outputAt, outputLength, produced, Allocator.freeAll_eq_value.1 hfree⟩
    · rw [takeOver, takeOver_of_fault hfault] at h
      cases h
  · obtain ⟨status, bytes⟩ := output
    rintro ⟨rfl, outputAt, outputLength, produced, course⟩
    rw [takeOver, takeOver_of_produced produced]
    exact Run.bind_eq_value.2 ⟨(), s', Allocator.freeAll_eq_value.2 course, rfl⟩

/-- Why the output of a call is not taken over once its function has ended: it is not there, or a
buffer cannot be handed back. -/
inductive Fails (e : Episode) (a : Allocator) (call : GuestCall) (input : Bytes) :
    GuestStop → Store guests → Prop
  | output {fault : AbiFault}
      (absent : OutputFault (memoryAt e.ended a.memory) e.slots e.lengthSlot fault) :
      Fails e a call input (.raised fault) e.ended
  | deallocation {outputAt outputLength : Word} {bytes : Bytes} {why : GuestStop}
      {s : Store guests} (produced : Produced (memoryAt e.ended a.memory) e.slots e.lengthSlot
        outputAt outputLength bytes)
      (stops : a.StopsFreeing call (e.returned input outputAt outputLength) e.ended why s) :
      Fails e a call input why s

theorem takeOver_eq_stop {why : GuestStop} :
    e.takeOver a call input e.ended = .stop why s' ↔ e.Fails a call input why s' := by
  constructor
  · intro h
    obtain ⟨outputAt, outputLength, bytes, produced⟩ | ⟨fault, hfault⟩ :=
      produced_or_fault (memoryAt e.ended a.memory) e.slots e.lengthSlot
    · rw [takeOver, takeOver_of_produced produced, Run.bind_apply] at h
      cases hfree : a.freeAll call (handedBack e.inputAt (UInt32.ofNat input.length) e.slots
          outputAt outputLength) e.ended with
      | value _ s₁ =>
        rw [hfree] at h
        cases h
      | stop why' s₁ =>
        rw [hfree] at h
        cases h
        exact .deallocation produced (Allocator.freeAll_eq_stop.1 hfree)
    · rw [takeOver, takeOver_of_fault hfault] at h
      cases h
      exact .output hfault
  · intro h
    cases h with
    | output hfault => rw [takeOver, takeOver_of_fault hfault]
    | deallocation produced stops =>
      have hstop := Allocator.freeAll_eq_stop.2 stops
      rw [returned] at hstop
      rw [takeOver, takeOver_of_produced produced, Run.bind_of_stop hstop]

end Episode

/-- A call of an export by name that completes, with everything that the host does in it. -/
structure Completion (i : Instance) (call : GuestCall) (name : String) (input : Bytes)
    (s : Store guests) (output : RawOutput) (s' : Store guests) where
  place : Nat
  allocator : Allocator
  episode : Episode
  outputAt : Word
  outputLength : Word
  callable : Callable s i name place allocator
  /-- The function runs on the input and two slots, in buffers that the guest allocated. -/
  conducted : episode.Of allocator call place input s
  /-- The status is what the function returned. -/
  status : output.status = (episode.results.headD 0).toInt32
  /-- The bytes are those that the slots tell, as the memory stood when the function had ended. -/
  produced : Produced (memoryAt episode.ended allocator.memory) episode.slots episode.lengthSlot
    outputAt outputLength output.bytes
  /-- Then the buffers are handed back. -/
  freed : allocator.Course call (allocator.freeing (episode.returned input outputAt outputLength))
    episode.ended s'

namespace Completion

variable {i : Instance} {call : GuestCall} {name : String} {input : Bytes} {output : RawOutput}
  {s s' : Store guests}

/-- Everything that the host does. -/
def deeds (c : Completion i call name input s output s') : List Deed :=
  c.episode.deeds c.place input ++
    c.allocator.freeing (c.episode.returned input c.outputAt c.outputLength)

theorem course (c : Completion i call name input s output s') :
    c.allocator.Course call c.deeds s s' :=
  Allocator.course_append.2 ⟨_, c.conducted.course, c.freed⟩

end Completion

/-- **A call completes exactly if all its steps do.** -/
theorem callExport_eq_ok_iff {i : Instance} {call : GuestCall} {name : String} {input : Bytes}
    {output : RawOutput} {s s' : Store guests} :
    callExport i call name input s = .value (.ok output) s' ↔
      Nonempty (Completion i call name input s output s') := by
  rw [callExport_eq_ok]
  constructor
  · rintro ⟨place, a, callable, hrun⟩
    obtain ⟨e, he, htake⟩ := Episode.exists_of_runExport hrun
    obtain ⟨status, outputAt, outputLength, produced, freed⟩ := Episode.takeOver_eq_value.1 htake
    exact ⟨⟨place, a, e, outputAt, outputLength, callable, he, status, produced, freed⟩⟩
  · rintro ⟨c⟩
    refine ⟨c.place, c.allocator, c.callable, c.conducted.runExport_eq.trans ?_⟩
    exact Episode.takeOver_eq_value.2 ⟨c.status, _, _, c.produced, c.freed⟩

end ModuleHost
