import ModuleHost.Call.Value
import ModuleHost.Json.Typed

/-!
# Result envelopes

A completed call is reported as an object with the members `result` and `error`. An empty error
means success.

* `Envelope` — the two members; `Envelope.ok`, `Envelope.failed`;
* `Envelope.text` — the JSON text of an envelope;
* `Envelope.outcome` — the returned value or the guest's error message;
* `Envelope.decode` — the envelope of a text.
-/

namespace ModuleHost

/-- The result of a completed call. -/
structure Envelope where
  result : Json
  error : String

namespace Envelope

/-- The envelope of a returned value. -/
def ok (result : Json) : Envelope := ⟨result, ""⟩

/-- The envelope of a failure reported by the guest. -/
def failed (message : String) : Envelope := ⟨.null, message⟩

/-- The object of an envelope. -/
def toJson (e : Envelope) : Json := .object [("result", e.result), ("error", .string e.error)]

/-- The JSON text of an envelope. -/
def text (e : Envelope) : String := e.toJson.compact

/-- The returned value, or the guest's error message. -/
def outcome (e : Envelope) : Except String Value :=
  if e.error = "" then .ok (.ofJson e.result) else .error e.error

/-- What the texts of this module are called in errors. -/
def subject : String := "call result"

/-- The envelope of an object: absent members are null and empty, other members do not matter. -/
def ofJson? (json : Json) : Option Envelope :=
  match json.get? "error" with
  | none => some ⟨(json.get? "result").getD .null, ""⟩
  | some (.string error) => some ⟨(json.get? "result").getD .null, error⟩
  | some _ => none

/-- The envelope of a text. -/
def decode (raw : String) : Except MarshalError Envelope :=
  match Json.parse raw with
  | .error cause => .error (.parse subject cause raw)
  | .ok json =>
    if json.isObject then
      match ofJson? json with
      | some e => .ok e
      | none => .error (.parse subject .mismatch raw)
    else .error (.shape subject "expected an object with `result` and `error` fields" raw)

end Envelope

end ModuleHost
