import ModuleHost.Proofs.Engine.Invariant

/-!
# Log calls

A guest that logs gives a level and two ranges of its memory. The logger of its module decides
whether they are read at all.

* `snapshot` — the memory of the instance that calls;
* `Unreadable`, `bufferIn_fails` — which ranges cannot be read;
* `Logger.logged` — what a log call passes on, or the fault that ends it;
* `said`, `passed` — the records of log calls without regard to settings; those that settings let
  pass; `passed_log`;
* `logMessage_apply`, **`log_apply`**: a log call does just that, and is noted.
-/

namespace ModuleHost

open Wasm (Word Store Run)

/-- The memory of the instance that calls, as it stands in a store. -/
def snapshot (s : Store guests) (caller : Option Nat) : Option Wasm.Memory :=
  (exportedMemory? s ((caller.bind (s.instances[·]?)).getD {})).map (memoryAt s)

/-- A range has a negative length, or passes the end of the memory and is not empty. -/
def Unreadable (m : Wasm.Memory) (pointer length : Word) : Prop :=
  length.toInt32 < 0 ∨ length ≠ 0 ∧ m.size < pointer.toNat + length.toNat

theorem bufferIn_fails {m : Wasm.Memory} {pointer length : Word} :
    (∃ fault, bufferIn m pointer length = .error fault) ↔ Unreadable m pointer length := by
  unfold bufferIn Unreadable
  by_cases negative : length.toInt32 < 0
  · rw [if_pos negative]
    exact iff_of_true ⟨_, rfl⟩ (.inl negative)
  · rw [if_neg negative, or_iff_right negative]
    by_cases empty : length = 0
    · rw [if_pos empty]
      exact iff_of_false (fun ⟨_, h⟩ => nomatch h) (fun h => h.1 empty)
    · rw [if_neg empty, and_iff_right empty, Wasm.Memory.read?, Wasm.Memory.holds]
      by_cases inside : pointer.toNat + length.toNat ≤ m.size
      · rw [if_pos (decide_eq_true inside)]
        exact iff_of_false (fun ⟨_, h⟩ => nomatch h) (Nat.not_lt.2 inside)
      · rw [if_neg (by simpa using inside)]
        exact iff_of_true ⟨_, rfl⟩ (Nat.lt_of_not_le inside)

theorem bufferIn_reads {m : Wasm.Memory} {pointer length : Word} :
    (∃ bytes, bufferIn m pointer length = .ok bytes) ↔ ¬ Unreadable m pointer length := by
  rw [← bufferIn_fails]
  cases bufferIn m pointer length with
  | ok bytes => exact iff_of_true ⟨bytes, rfl⟩ fun ⟨_, h⟩ => nomatch h
  | error fault => exact iff_of_false (fun ⟨_, h⟩ => nomatch h) (not_not_intro ⟨fault, rfl⟩)

/-- The record that a log call passes on, or the fault that ends the call. What the logger does not
admit is not read. -/
def Logger.logged (g : Logger) (memory : Option Wasm.Memory)
    (level target targetLength message messageLength : Word) :
    Except AbiFault (Option LogRecord) :=
  if g.admits (.ofGuest level.toInt32) then
    match memory with
    | none => .error .noMemory
    | some m => do
      let target ← bufferIn m target targetLength
      let message ← bufferIn m message messageLength
      return (g.recordBytes level.toInt32 target message).toOption.join
  else .ok none

section

variable {g : Logger} {memory : Option Wasm.Memory}
  {level target targetLength message messageLength : Word}

/-- What the logger does not admit is passed over, whatever the ranges are. -/
theorem logged_of_filtered (h : g.admits (.ofGuest level.toInt32) = false) :
    g.logged memory level target targetLength message messageLength = .ok none := by
  unfold Logger.logged
  rw [h]
  rfl

theorem logged_fails (h : g.admits (.ofGuest level.toInt32) = true)
    (unreadable : ∀ m, memory = some m →
      Unreadable m target targetLength ∨ Unreadable m message messageLength) :
    ∃ fault, g.logged memory level target targetLength message messageLength = .error fault := by
  unfold Logger.logged
  rw [if_pos h]
  cases memory with
  | none => exact ⟨_, rfl⟩
  | some m =>
    cases ht : bufferIn m target targetLength with
    | error fault => exact ⟨fault, by simp only [ht]; rfl⟩
    | ok targetBytes =>
      obtain ⟨fault, hmessage⟩ := bufferIn_fails.2
        ((unreadable m rfl).resolve_left (bufferIn_reads.1 ⟨_, ht⟩))
      exact ⟨fault, by simp only [ht, bind, Except.bind, hmessage]⟩

end

theorem logged_of_readable (g : Logger) {m : Wasm.Memory}
    {level target targetLength message messageLength : Word}
    (ht : ¬ Unreadable m target targetLength) (hm : ¬ Unreadable m message messageLength) :
    ∃ record, g.logged (some m) level target targetLength message messageLength = .ok record := by
  unfold Logger.logged
  split
  · obtain ⟨targetBytes, htarget⟩ := bufferIn_reads.2 ht
    obtain ⟨messageBytes, hmessage⟩ := bufferIn_reads.2 hm
    exact ⟨_, by simp only [htarget, hmessage, bind, Except.bind]; rfl⟩
  · exact ⟨none, rfl⟩

/-- The text of a message, if both ranges can be read and hold text. -/
def heard? (memory : Option Wasm.Memory) (target targetLength message messageLength : Word) :
    Option String := do
  let memory ← memory
  let target ← (bufferIn memory target targetLength).toOption
  let message ← (bufferIn memory message messageLength).toOption
  let _ ← Text.strict? target
  Text.strict? message

theorem logged_join (g : Logger) (memory : Option Wasm.Memory)
    (level target targetLength message messageLength : Word) :
    (g.logged memory level target targetLength message messageLength).toOption.join =
      if g.admits (.ofGuest level.toInt32) then
        (heard? memory target targetLength message messageLength).map
          (⟨g.service, ·, .ofGuest level.toInt32⟩)
      else none := by
  unfold Logger.logged heard?
  cases hadmits : g.admits (.ofGuest level.toInt32) with
  | false => rfl
  | true =>
    cases memory with
    | none => rfl
    | some memory =>
      simp only [if_true, Option.bind_eq_bind, Option.bind_some]
      cases bufferIn memory target targetLength with
      | error fault => rfl
      | ok targetBytes =>
        cases bufferIn memory message messageLength with
        | error fault => rfl
        | ok messageBytes =>
          simp only [Except.toOption, Option.bind_some, bind, Except.bind, Logger.recordBytes]
          cases Text.strict? targetBytes with
          | none => rfl
          | some targetText =>
            cases Text.strict? messageBytes with
            | none => rfl
            | some text =>
              simp only [Logger.record?, hadmits]
              rfl

/-! ## Records of exchanges -/

/-- The record of a log call in the service `id` if every setting lets it pass, with the position of
the module that logs. -/
def Exchange.said? (id : String) : Exchange → Option (Nat × LogRecord)
  | .log position _ memory level target targetLength message messageLength =>
    (heard? memory target targetLength message messageLength).map
      fun text => (position, ⟨id, text, .ofGuest level.toInt32⟩)
  | .parameters _ | .sibling .. | .allocated .. | .freed .. => none

/-- The records of exchanges if every setting lets them pass. -/
def said (id : String) (xs : List Exchange) : List (Nat × LogRecord) := xs.filterMap (·.said? id)

/-- The records that settings let pass; `admits` tells the levels for each position. -/
def passed (admits : Nat → LogLevel → Bool) (es : List (Nat × LogRecord)) : List LogRecord :=
  (es.filter fun e => admits e.1 e.2.level).map (·.2)

@[simp]
theorem said_append (id : String) (xs ys : List Exchange) :
    said id (xs ++ ys) = said id xs ++ said id ys := List.filterMap_append

@[simp]
theorem passed_append (admits : Nat → LogLevel → Bool) (es es' : List (Nat × LogRecord)) :
    passed admits (es ++ es') = passed admits es ++ passed admits es' := by
  rw [passed, List.filter_append, List.map_append]
  rfl

theorem passed_of_all {admits : Nat → LogLevel → Bool} (h : ∀ position level, admits position level)
    (es : List (Nat × LogRecord)) : passed admits es = es.map (·.2) := by
  rw [passed, List.filter_eq_self.2 fun e _ => h e.1 e.2.level]

theorem said_of_none {id : String} {x : Exchange} (h : x.said? id = none) : said id [x] = [] := by
  rw [said, List.filterMap_cons_none h, List.filterMap_nil]

theorem said_log (id : String) (position : Nat) (caller : Option Nat)
    (memory : Option Wasm.Memory) (level target targetLength message messageLength : Word) :
    said id [.log position caller memory level target targetLength message messageLength] =
      ((heard? memory target targetLength message messageLength).map
        fun text => (position, ⟨id, text, .ofGuest level.toInt32⟩)).toList := by
  rw [said, List.filterMap_cons]
  simp only [Exchange.said?]
  cases heard? memory target targetLength message messageLength <;> rfl

/-- What a logger passes on for a log call is what its levels let pass. -/
theorem passed_log (g : Logger) {admits : Nat → LogLevel → Bool} {position : Nat}
    (hadmits : admits position = g.admits) (caller : Option Nat) (memory : Option Wasm.Memory)
    (level target targetLength message messageLength : Word) :
    passed admits (said g.service [.log position caller memory level target targetLength message
        messageLength]) =
      (g.logged memory level target targetLength message messageLength).toOption.join.toList := by
  rw [logged_join, said_log]
  cases heard? memory target targetLength message messageLength with
  | none => split <;> rfl
  | some text =>
    cases hlevel : g.admits (.ofGuest level.toInt32) <;> simp [passed, hadmits, hlevel]

/-! ## The host function -/

theorem noted_sink (x : Exchange) (s : Store guests) : (noted x s).data.sink = s.data.sink := rfl

/-- Sends what a log call passes on; raises its fault. -/
def emit : Except AbiFault (Option LogRecord) → Guest Unit
  | .error fault => Run.raise fault
  | .ok none => return
  | .ok (some record) => sendRecord record

theorem orRaise_ok {α : Type} (a : α) (s : Store guests) : orRaise (.ok a) s = .value a s := rfl

theorem callingMemory_apply (caller : Option Nat) (s : Store guests) :
    callingMemory caller s =
      orRaise (match exportedMemory? s ((caller.bind (s.instances[·]?)).getD {}) with
        | some place => .ok place
        | none => .error .noMemory) s := rfl

theorem readBuffer_apply (memory : Nat) (pointer length : Word) (s : Store guests) :
    readBuffer memory pointer length s =
      orRaise (bufferIn (memoryAt s memory) pointer length) s := rfl

section

variable {g : Logger} {s : Store guests} {caller : Option Nat}
  {level target targetLength message messageLength : Word}

theorem logMessage_apply :
    logMessage g caller level target targetLength message messageLength s =
      emit (g.logged (snapshot s caller) level target targetLength message messageLength) s := by
  unfold logMessage Logger.logged
  split
  · rw [Run.bind_apply, callingMemory_apply, snapshot]
    cases exportedMemory? s ((caller.bind (s.instances[·]?)).getD {}) with
    | none => rfl
    | some place =>
      simp only [Option.map_some, orRaise_ok, Run.bind_apply, readBuffer_apply]
      cases bufferIn (memoryAt s place) target targetLength with
      | error fault => rfl
      | ok targetBytes =>
        simp only [orRaise_ok]
        cases bufferIn (memoryAt s place) message messageLength with
        | error fault => rfl
        | ok messageBytes =>
          simp only [orRaise_ok, bind, Except.bind]
          cases g.recordBytes level.toInt32 targetBytes messageBytes with
          | error warning => rfl
          | ok record => cases record <;> rfl
  · rfl

/-- **A log call is noted, and passes on what the logger of its module lets pass.** -/
theorem log_apply {position : Nat} (hg : s.data.loggers[position]? = some g) (call : GuestCall) :
    hostFunctions (.log position) call caller
        [level, target, targetLength, message, messageLength] s =
      (emit (g.logged (snapshot s caller) level target targetLength message messageLength) >>=
          fun _ => pure [])
        (noted (.log position caller (snapshot s caller) level target targetLength message
          messageLength) s) := by
  have hlogger : (Run.orTrap s.data.loggers[position]? : Guest Logger) = pure g := by rw [hg]; rfl
  change ((Run.orTrap s.data.loggers[position]? : Guest Logger) >>= fun g =>
    callingSnapshot caller >>= fun memory =>
      note (.log position caller memory level target targetLength message messageLength) >>=
        fun _ => logMessage g caller level target targetLength message messageLength >>=
          fun _ => pure []) s = _
  rw [hlogger]
  change (logMessage g caller level target targetLength message messageLength >>= fun _ => pure [])
    (noted _ s) = _
  rw [Run.bind_apply, logMessage_apply, Run.bind_apply]
  rfl

theorem log_of_missing {position : Nat} (hg : s.data.loggers[position]? = none)
    (call : GuestCall) :
    hostFunctions (.log position) call caller
      [level, target, targetLength, message, messageLength] s = .stop .trap s := by
  have hlogger : (Run.orTrap s.data.loggers[position]? : Guest Logger) = Run.stop .trap := by
    rw [hg]
    rfl
  change ((Run.orTrap s.data.loggers[position]? : Guest Logger) >>= fun _ => _) s = _
  rw [hlogger]
  rfl

theorem emit_ok (record : Option LogRecord) (s : Store guests) :
    emit (.ok record) s =
      if record.any s.data.sink.breaksOn then .stop .broken s
      else .value ()
        { s with data := { s.data with records := s.data.records ++ record.toList } } := by
  cases record with
  | none =>
    show Wasm.Ended.value () s = Wasm.Ended.value () _
    rw [Option.toList_none, List.append_nil]
  | some r =>
    show sendRecord r s = _
    unfold sendRecord
    rw [Run.store_bind, Option.any_some]
    split <;> rfl

/-- What a log call passes on is sent, if the sink takes it. -/
theorem log_of_taken {position : Nat} (hg : s.data.loggers[position]? = some g) (call : GuestCall)
    {record : Option LogRecord}
    (hlogged : g.logged (snapshot s caller) level target targetLength message messageLength =
      .ok record) (taken : ¬ record.any s.data.sink.breaksOn) :
    hostFunctions (.log position) call caller
        [level, target, targetLength, message, messageLength] s =
      let noted := noted (.log position caller (snapshot s caller) level target targetLength message
        messageLength) s
      .value [] { noted with
        data := { noted.data with records := s.data.records ++ record.toList } } := by
  rw [log_apply hg, hlogged, Run.bind_apply, emit_ok, noted_sink, if_neg taken]
  rfl

end

end ModuleHost
