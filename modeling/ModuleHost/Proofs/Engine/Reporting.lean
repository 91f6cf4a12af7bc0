import ModuleHost.Proofs.Engine.Delivery

/-!
# Failures that guests report

A guest reports a failure by a status other than zero. Its message crosses to the caller in the
`error` member of an envelope, where an empty text would mean success.

* `Text.lossy_ne_empty` — bytes never make an empty text;
* `RawOutput.failure_eq`, `RawOutput.failure_ne_empty` — the message of a failure, never empty;
* **`Registry.reported_iff`**: a caller is told of a failure exactly when the status is not zero,
  and by the message as the guest wrote it;
* `refusing` — a module that reports failures.
-/

namespace ModuleHost

/-! ## Messages -/

namespace Text

theorem decodeFrom_some_ne_nil (bytes : List UInt8) (s : Begun) :
    decodeFrom (some s) bytes ≠ [] := by
  induction bytes generalizing s with
  | nil => exact List.cons_ne_nil _ _
  | cons b rest ih =>
    rw [decodeFrom, step]
    by_cases haccepts : s.accepts b
    · by_cases howed : s.owed ≤ 1
      · rw [if_pos haccepts, if_pos howed]
        exact List.cons_ne_nil _ _
      · rw [if_pos haccepts, if_neg howed]
        exact ih (s.push b)
    · rw [if_neg haccepts]
      exact List.cons_ne_nil _ _

theorem lead_cases (b : UInt8) : (∃ p, lead b = ([p], none)) ∨ ∃ s, lead b = ([], some s) := by
  unfold lead
  split_ifs
  · exact .inl ⟨_, rfl⟩
  all_goals first | exact .inr ⟨_, rfl⟩ | exact .inl ⟨_, rfl⟩

theorem decode_ne_nil {bytes : List UInt8} (h : bytes ≠ []) : decode bytes ≠ [] := by
  obtain ⟨b, rest, rfl⟩ := List.exists_cons_of_ne_nil h
  rw [decode, decodeFrom, step]
  obtain ⟨p, hp⟩ | ⟨s, hs⟩ := lead_cases b
  · rw [hp]
    exact List.cons_ne_nil _ _
  · rw [hs]
    exact decodeFrom_some_ne_nil rest s

theorem lossy_ne_empty {bytes : List UInt8} (h : bytes ≠ []) : lossy bytes ≠ "" := by
  intro hempty
  have hchars := congrArg String.toList hempty
  rw [lossy, String.toList_ofList] at hchars
  exact decode_ne_nil h (List.map_eq_nil_iff.1 hchars)

end Text

namespace RawOutput

theorem failure_eq (o : RawOutput) : o.failure =
    if o.bytes = [] then s!"status {o.status.toInt}" else Text.lossy o.bytes := by
  unfold failure
  by_cases h : o.bytes = []
  · rw [if_pos h, h]
    rfl
  · have hempty : (Text.lossy o.bytes).isEmpty = false := by
      simpa using Text.lossy_ne_empty h
    rw [if_neg h]
    simp only [hempty, Bool.false_eq_true, if_false]

/-- The message of a failure does not read as success. -/
theorem failure_ne_empty (o : RawOutput) : o.failure ≠ "" := by
  rw [failure_eq]
  split
  · intro h
    have hword : "status " = "" := (String.append_eq_empty_iff.1 h).1
    exact absurd hword (by decide)
  · next h => exact Text.lossy_ne_empty h

theorem answer_of_failure {o : RawOutput} (h : o.status ≠ 0) (function : String) :
    o.answer function = .ok (Envelope.failed o.failure).text := by
  rw [answer, envelope, if_pos h]

theorem answer_of_nothing {o : RawOutput} (status : o.status = 0) (bytes : o.bytes = [])
    (function : String) : o.answer function = .ok (Envelope.ok .null).text := by
  rw [answer, envelope, if_neg (by simp [status]), bytes]
  rfl

/-- The answer to a status of zero: an envelope without an error, or a fault. -/
theorem answer_of_success {o : RawOutput} (h : o.status = 0) (function : String) :
    (∃ j, o.answer function = .ok (Envelope.ok j).text) ∨
      ∃ message, o.answer function = .error (.guest (.fault function message)) := by
  by_cases hbytes : o.bytes = []
  · exact .inl ⟨.null, answer_of_nothing h hbytes function⟩
  cases hparse : Json.parseBytes o.bytes with
  | ok j => exact .inl ⟨j, answer_of_json h hbytes hparse function⟩
  | error cause =>
    have hempty : o.bytes.isEmpty = false := by simpa using hbytes
    refine .inr
      ⟨s!"returned invalid JSON: {cause.plainTag}, original text: {Text.lossy o.bytes}", ?_⟩
    rw [answer, envelope, if_neg (by simp [h]), hempty, if_neg Bool.false_ne_true, hparse]

end RawOutput

/-! ## Reports -/

namespace Registry

variable {regime : Wasm.Regime}

theorem readReply_failed {message : String} (h : message ≠ "") (function : String) :
    readReply function (Envelope.failed message).text =
      .error (.guest (.failed function message)) := by
  rw [readReply_text]
  exact if_neg h

theorem readReply_ne_failed (j : Json) (function f message : String) :
    readReply function (Envelope.ok j).text ≠ .error (.guest (.failed f message)) := by
  rw [readReply_text]
  cases (Envelope.ok j).result.reread (Json.Reader.maxDepth - 1) with
  | error cause => nofun
  | ok j' => nofun

/-- **What a caller is told of a failure.** The caller of a function that completes is told that it
failed exactly when its status is not zero, and then of that function and with the text of its
output, or its status if there is no output. A status of zero without output is a null. -/
theorem reported_iff {r : Registry (Engine.controlRuntime regime)} {id function : String}
    {args : CallArgs} {parameters : CallParameters} {output : RawOutput}
    (completes : r.completion id function args parameters = some output) :
    (∀ f message, (r.callService id function args parameters).result =
        some (.error (.guest (.failed f message))) ↔
      output.status ≠ 0 ∧ f = function ∧ message =
        if output.bytes = [] then s!"status {output.status.toInt}" else Text.lossy output.bytes) ∧
    (output.status = 0 → output.bytes = [] →
      (r.callService id function args parameters).result = some (.ok .null)) := by
  rw [callService_of_completion completes, ← RawOutput.failure_eq]
  refine ⟨fun f message => ?_, fun status bytes => ?_⟩
  · by_cases hstatus : output.status = 0
    · refine ⟨fun h => ?_, fun h => absurd hstatus h.1⟩
      obtain ⟨j, hj⟩ | ⟨m, hm⟩ := RawOutput.answer_of_success hstatus function
      · rw [hj] at h
        exact absurd (Option.some.inj h) (readReply_ne_failed j function f message)
      · rw [hm] at h
        cases h
    · rw [RawOutput.answer_of_failure hstatus, readAnswer,
        readReply_failed (RawOutput.failure_ne_empty output)]
      constructor
      · rintro ⟨⟩
        exact ⟨hstatus, rfl, rfl⟩
      · rintro ⟨-, rfl, rfl⟩
        rfl
  · rw [RawOutput.answer_of_nothing status bytes, readAnswer, readReply_text]
    rfl

/-- A module whose function `e` reports a failure with status 7 and the bytes of a quote, a
backslash, no character and a control character. -/
def refusing : Bytes :=
  [0, 97, 115, 109, 1, 0, 0, 0, 1, 36, 6, 96, 1, 127, 1, 127, 96, 2, 127, 127, 0, 96, 4, 127, 127,
    127, 127, 1, 127, 96, 5, 127, 127, 127, 127, 127, 0, 96, 2, 127, 127, 1, 127, 96, 0, 0, 3, 4, 3,
    0, 1, 2, 5, 3, 1, 0, 1, 6, 8, 1, 127, 1, 65, 128, 192, 0, 11, 7, 38, 4, 6, 109, 101, 109, 111,
    114, 121, 2, 0, 8, 97, 108, 108, 111, 99, 97, 116, 101, 0, 0, 10, 100, 101, 97, 108, 108, 111,
    99, 97, 116, 101, 0, 1, 1, 101, 0, 2, 10, 35, 3, 11, 0, 35, 0, 35, 0, 32, 0, 106, 36, 0, 11, 2,
    0, 11, 18, 0, 32, 2, 65, 16, 54, 2, 0, 32, 3, 65, 4, 54, 2, 0, 65, 7, 11, 11, 10, 1, 0, 65, 16,
    11, 4, 34, 92, 255, 1, 0, 59, 15, 105, 110, 116, 101, 114, 102, 97, 99, 101, 45, 116, 121, 112,
    101, 115, 123, 34, 102, 117, 110, 99, 116, 105, 111, 110, 115, 34, 58, 91, 123, 34, 110, 97,
    109, 101, 34, 58, 34, 101, 34, 44, 34, 112, 97, 114, 97, 109, 115, 34, 58, 91, 34, 97, 34, 93,
    125, 93, 125]

/-- A registry whose service `s` consists of that module. -/
def reporting : Registry (Engine.controlRuntime {}) :=
  let started := (uninitialized.init [0, 97, 115, 109, 1, 0, 0, 0]).registry
  (started.createService ⟨"s", [⟨"m", .owned refusing, {}⟩], none⟩ .total).registry

theorem reported_iff_refusing :
    ∃ output, reporting.completion "s" "e" (.positional [.null]) {} = some output ∧
      output.status ≠ 0 ∧ (reporting.callService "s" "e" (.positional [.null]) {}).result =
        some (.error (.guest (.failed "e" "\"\\\uFFFD\x01"))) := by
  have completes : reporting.completion "s" "e" (.positional [.null]) {} =
      some ⟨7, [34, 92, 255, 1]⟩ := by decide +kernel
  have status : (⟨7, [34, 92, 255, 1]⟩ : RawOutput).status ≠ 0 := by decide
  refine ⟨_, completes, status, ?_⟩
  exact ((reported_iff completes).1 "e" _).2 ⟨status, rfl, by decide +kernel⟩

end Registry

end ModuleHost
