import ModuleHost.Call.Envelope
import ModuleHost.Engine.Export
import ModuleHost.Interface.Basic

/-!
# Invoking a function of a service

* `FunctionSignature.arguments` — arguments brought into the order that metadata declares;
* `RawOutput.envelope` — the envelope of what a call gives;
* `withParameters` — guest code run while the parameters of a call are in place.
-/

namespace ModuleHost

open Wasm (Run)

/-! ## Arguments -/

/-- The members of an object that parameters name, in the order of the parameters, each taken out of
the object; otherwise the first parameter without a member. -/
def membersInOrder (entries : List (String × Json)) : List String → Except String (List Json)
  | [] => .ok []
  | param :: params => do
    match Fields.get? param entries with
    | none => .error s!"missing argument `{param}`"
    | some j => return j :: (← membersInOrder (Fields.erase param entries) params)

/-- The arguments in the order of parameters, or the reason why they do not fit. -/
def orderArguments (params : List String) : Json → Except String (List Json)
  | .array items =>
    if items.length = params.length then .ok items
    else .error s!"expected {params.length} arguments, got {items.length}"
  | .fields entries => membersInOrder entries params
  | _ => .error "arguments must be an array or an object"

/-- The text of the arguments of a function in the order of its parameters. -/
def FunctionSignature.arguments (f : FunctionSignature) (raw : String) :
    Except GuestError String :=
  match Json.parse raw with
  | .error cause =>
    .error (.argumentMismatch f.name s!"arguments are not valid JSON: {cause.plainTag}")
  | .ok json =>
    match orderArguments f.params json with
    | .error reason => .error (.argumentMismatch f.name reason)
    | .ok items => .ok (Json.array items).compact

/-! ## Results -/

/-- The message of a call that failed: its output, or its status without one. -/
def RawOutput.failure (o : RawOutput) : String :=
  let message := Text.lossy o.bytes
  if message.isEmpty then s!"status {o.status.toInt}" else message

/-- The envelope of what a call of `function` gives. -/
def RawOutput.envelope (function : String) (o : RawOutput) : Except GuestError Envelope :=
  if o.status ≠ 0 then .ok (.failed o.failure)
  else if o.bytes.isEmpty then .ok (.ok .null)
  else
    match Json.parseBytes o.bytes with
    | .ok json => .ok (.ok json)
    | .error cause =>
      .error (.fault function
        s!"returned invalid JSON: {cause.plainTag}, original text: {Text.lossy o.bytes}")

/-! ## Parameters -/

/-- Puts the parameters of a call in place. -/
def setParameters (p : CallParameters) : Guest Unit :=
  Run.modify fun s => { s with data := { s.data with parameters := p } }

/-- Runs guest code while the parameters of a call are in place. -/
def withParameters {α : Type} (p : CallParameters) (x : Guest α) : Guest α := do
  setParameters p
  let a ← x
  setParameters {}
  return a

end ModuleHost
