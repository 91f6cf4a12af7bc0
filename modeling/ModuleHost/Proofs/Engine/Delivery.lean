import ModuleHost.Proofs.Engine.Completion
import ModuleHost.Proofs.Json.Parsed
import ModuleHost.Proofs.Json.RoundTrip

/-!
# Results on their way to the caller

What a guest returns is wrapped into an envelope, written, and read again. The envelope opens one
bracket more than the result.

* `Envelope.decode_text` — a written envelope is read back, unless its result is not;
* **`callService_of_json`**: what a caller is told of a result that the engine takes as JSON;
* `echo` — a module that returns its input; a result of it that is lost on its way.
-/

namespace ModuleHost

namespace Envelope

theorem toJson_eq (e : Envelope) :
    e.toJson = .fields [("error", .string e.error), ("result", e.result)] := by
  have h : compare "error" "result" = .lt := by decide
  simp [toJson, Json.object, Fields.ofList, Fields.insert, h]

theorem ofJson?_toJson (e : Envelope) : ofJson? e.toJson = some e := by
  have h : compare "result" "error" = .gt := by decide
  simp [toJson_eq, ofJson?, Json.get?, Fields.get?, h]

theorem reread_toJson (e : Envelope) : e.toJson.reread Json.Reader.maxDepth =
    (fun j => toJson ⟨j, e.error⟩) <$> e.result.reread (Json.Reader.maxDepth - 1) := by
  have hkeys : compare "result" "error" = .gt := by decide
  rw [toJson_eq]
  show Json.object <$> Json.rereadEntries _ (Json.Reader.maxDepth - 1) = _
  simp only [Json.rereadEntries]
  cases e.result.reread (Json.Reader.maxDepth - 1) with
  | error cause => rfl
  | ok j =>
    show Except.ok (Json.object [("error", .string e.error), ("result", j)]) =
      Except.ok (toJson ⟨j, e.error⟩)
    rw [toJson_eq]
    simp [Json.object, Fields.ofList, Fields.insert, hkeys]

/-- A written envelope is read back with its error and what its result is read as. -/
theorem decode_text (e : Envelope) :
    decode e.text = match e.result.reread (Json.Reader.maxDepth - 1) with
      | .ok j => .ok ⟨j, e.error⟩
      | .error cause => .error (.parse subject cause e.text) := by
  have hobject : ∀ e : Envelope, e.toJson.isObject = true := fun e => by
    rw [toJson_eq]
    rfl
  have hparse := Json.parse_compact_eq e.toJson
  rw [reread_toJson] at hparse
  unfold decode
  rw [text, hparse]
  cases e.result.reread (Json.Reader.maxDepth - 1) with
  | error cause => rfl
  | ok j =>
    show (if (toJson ⟨j, e.error⟩).isObject then _ else _) = _
    rw [if_pos (hobject _), ofJson?_toJson]

end Envelope

theorem RawOutput.envelope_of_json {output : RawOutput} {j : Json} (status : output.status = 0)
    (bytes : output.bytes ≠ []) (parsed : Json.parseBytes output.bytes = .ok j)
    (function : String) : output.envelope function = .ok (.ok j) := by
  have hempty : output.bytes.isEmpty = false := by simpa using bytes
  rw [envelope, if_neg (by simp [status]), hempty, if_neg Bool.false_ne_true, parsed]

theorem RawOutput.answer_of_json {output : RawOutput} {j : Json} (status : output.status = 0)
    (bytes : output.bytes ≠ []) (parsed : Json.parseBytes output.bytes = .ok j)
    (function : String) : output.answer function = .ok (Envelope.ok j).text := by
  rw [answer, envelope_of_json status bytes parsed]

namespace Registry

variable {regime : Wasm.Regime}

theorem readReply_text (e : Envelope) (function : String) :
    readReply function e.text = match e.result.reread (Json.Reader.maxDepth - 1) with
      | .ok j => if e.error = "" then .ok (.ofJson j) else .error (.guest (.failed function e.error))
      | .error cause => .error (.marshal (.parse Envelope.subject cause e.text)) := by
  unfold readReply
  rw [Envelope.decode_text]
  cases e.result.reread (Json.Reader.maxDepth - 1) with
  | error cause => rfl
  | ok j =>
    simp only [Envelope.outcome]
    by_cases he : e.error = ""
    · rw [if_pos he, if_pos he]
    · rw [if_neg he, if_neg he]

theorem readReply_ok {j : Json} (integral : j.Integral) (sorted : j.Sorted) (function : String) :
    readReply function (Envelope.ok j).text =
      if j.depth < Json.Reader.maxDepth then .ok (.ofJson j)
      else .error (.marshal (.parse Envelope.subject .malformed (Envelope.ok j).text)) := by
  have hreply := readReply_text (Envelope.ok j) function
  rw [show (Envelope.ok j).result = j from rfl, Json.reread_of_integral integral, Json.bounded,
    sorted.normal_eq] at hreply
  rw [hreply]
  by_cases hd : j.depth < Json.Reader.maxDepth
  · rw [if_pos hd, if_pos (Nat.le_sub_one_of_lt hd)]
    rfl
  · rw [if_neg hd, if_neg fun h => hd (Nat.lt_of_le_sub_one (by decide) h)]

section

variable {r : Registry (Engine.controlRuntime regime)} {id function : String} {args : CallArgs}
  {parameters : CallParameters} {output : RawOutput} {j : Json}

theorem callService_eq_readReply
    (completes : r.completion id function args parameters = some output)
    (status : output.status = 0) (bytes : output.bytes ≠ [])
    (parsed : Json.parseBytes output.bytes = .ok j) :
    (r.callService id function args parameters).result =
      some (readReply function (Envelope.ok j).text) := by
  rw [callService_of_completion completes, RawOutput.answer_of_json status bytes parsed, readAnswer]

/-- **What a caller is told of a result.** A result that the engine takes as JSON reaches the
caller unless its brackets and that of the envelope are too many. -/
theorem callService_of_json
    (completes : r.completion id function args parameters = some output)
    (status : output.status = 0) (bytes : output.bytes ≠ [])
    (parsed : Json.parseBytes output.bytes = .ok j) (integral : j.Integral) :
    (r.callService id function args parameters).result =
      some (if j.depth < Json.Reader.maxDepth then .ok (.ofJson j)
        else .error (.marshal (.parse Envelope.subject .malformed (Envelope.ok j).text))) := by
  rw [callService_eq_readReply completes status bytes parsed,
    readReply_ok integral (Json.parseText_ok parsed).1]

end

/-! ## A result that is lost -/

/-- A module whose function `e` returns the text of its arguments. -/
def echo : Bytes :=
  [0, 97, 115, 109, 1, 0, 0, 0, 1, 36, 6, 96, 1, 127, 1, 127, 96, 2, 127, 127, 0, 96, 4, 127, 127,
    127, 127, 1, 127, 96, 5, 127, 127, 127, 127, 127, 0, 96, 2, 127, 127, 1, 127, 96, 0, 0, 3, 4, 3,
    0, 1, 2, 5, 3, 1, 0, 1, 6, 8, 1, 127, 1, 65, 128, 192, 0, 11, 7, 38, 4, 6, 109, 101, 109, 111,
    114, 121, 2, 0, 8, 97, 108, 108, 111, 99, 97, 116, 101, 0, 0, 10, 100, 101, 97, 108, 108, 111,
    99, 97, 116, 101, 0, 1, 1, 101, 0, 2, 10, 35, 3, 11, 0, 35, 0, 35, 0, 32, 0, 106, 36, 0, 11, 2,
    0, 11, 18, 0, 32, 2, 32, 0, 54, 2, 0, 32, 3, 32, 1, 54, 2, 0, 65, 0, 11, 0, 59, 15, 105, 110,
    116, 101, 114, 102, 97, 99, 101, 45, 116, 121, 112, 101, 115, 123, 34, 102, 117, 110, 99, 116,
    105, 111, 110, 115, 34, 58, 91, 123, 34, 110, 97, 109, 101, 34, 58, 34, 101, 34, 44, 34, 112,
    97, 114, 97, 109, 115, 34, 58, 91, 34, 97, 34, 93, 125, 93, 125]

/-- A registry whose service `s` consists of that module. -/
def echoing : Registry (Engine.controlRuntime {}) :=
  let started := (uninitialized.init [0, 97, 115, 109, 1, 0, 0, 0]).registry
  (started.createService ⟨"s", [⟨"m", .owned echo, {}⟩], none⟩ .total).registry

/-- Arrays inside each other, as an argument. -/
def nestedValue : Nat → Value
  | 0 => .null
  | n + 1 => .array [nestedValue n]

/-- Arrays inside each other. -/
def nested : Nat → Json
  | 0 => .null
  | n + 1 => .array [nested n]

/-- Their text. -/
def nestedText (n : Nat) : Bytes := List.replicate n 91 ++ Text.bytes "null" ++ List.replicate n 93

theorem integral_nested (n : Nat) : (nested n).Integral := by
  induction n with
  | zero => trivial
  | succ n ih => exact ⟨ih, trivial⟩

theorem depth_nested (n : Nat) : (nested n).depth = n := by
  induction n with
  | zero => rfl
  | succ n ih => rw [nested, Json.depth, Json.depthItems, Json.depthItems, ih, Nat.max_zero]

theorem normal_nested (n : Nat) : (nested n).normal = nested n := by
  induction n with
  | zero => rw [nested, Json.normal] <;> simp
  | succ n ih => rw [nested, Json.normal, Json.normalItems, Json.normalItems, ih]

theorem parse_nestedText {n : Nat} (hn : n ≤ Json.Reader.maxDepth)
    (h : Text.decode (nestedText n) = Text.pieces (nested n).chars) :
    Json.parseBytes (nestedText n) = .ok (nested n) := by
  have hparse := Json.parse_compact (integral_nested n)
  rw [Json.bounded, depth_nested, if_pos hn, normal_nested, Json.parse, Json.compact,
    Text.ofString_ofList, ← h] at hparse
  exact hparse

theorem callService_of_json_nested :
    ∃ output, echoing.completion "s" "e" (.positional [nestedValue 1]) {} = some output ∧
      output.status = 0 ∧ output.bytes ≠ [] ∧ Json.parseBytes output.bytes = .ok (nested 2) ∧
      (nested 2).Integral ∧
      (echoing.callService "s" "e" (.positional [nestedValue 1]) {}).result =
        some (.ok (.ofJson (nested 2))) := by
  have completes : echoing.completion "s" "e" (.positional [nestedValue 1]) {} =
      some ⟨0, nestedText 2⟩ := by decide +kernel
  have bytes : nestedText 2 ≠ [] := by decide +kernel
  have parsed : Json.parseBytes (nestedText 2) = .ok (nested 2) :=
    parse_nestedText (by decide) (by decide +kernel)
  refine ⟨_, completes, rfl, bytes, parsed, integral_nested 2, ?_⟩
  rw [callService_of_json completes rfl bytes parsed (integral_nested 2), if_pos (by decide)]

/-- A result with as many open brackets as are read is taken by the engine and lost on its way. -/
theorem nested_result_lost :
    ∃ output j, echoing.completion "s" "e" (.positional [nestedValue 126]) {} = some output ∧
      output.status = 0 ∧ output.bytes ≠ [] ∧ Json.parseBytes output.bytes = .ok j ∧ j.Integral ∧
      ∀ v, (echoing.callService "s" "e" (.positional [nestedValue 126]) {}).result ≠
        some (.ok v) := by
  have completes : echoing.completion "s" "e" (.positional [nestedValue 126]) {} =
      some ⟨0, nestedText 127⟩ := by decide +kernel
  have bytes : nestedText 127 ≠ [] := by decide +kernel
  have parsed : Json.parseBytes (nestedText 127) = .ok (nested 127) :=
    parse_nestedText (by decide) (by decide +kernel)
  refine ⟨_, _, completes, rfl, bytes, parsed, integral_nested 127, fun v => ?_⟩
  rw [callService_eq_readReply completes rfl bytes parsed,
    readReply_ok (integral_nested 127) (Json.parseText_ok parsed).1, depth_nested,
    if_neg (by decide)]
  intro h
  cases h

end Registry

end ModuleHost
