import ModuleHost.Call.Value

/-!
# Call arguments

Arguments are given in order or by parameter name, and cross the boundary as a JSON array or
object.

* `CallArgs` — positional or named arguments;
* `CallArgs.encode` — their JSON text;
* `CallArgs.parse` — the arguments of a JSON text, an array or an object.
-/

namespace ModuleHost

/-- The arguments of one service call. -/
inductive CallArgs where
  | positional (values : List Value)
  | named (values : Dict String Value)

namespace CallArgs

/-- No arguments. -/
def none : CallArgs := .positional []

instance : Inhabited CallArgs := ⟨none⟩

/-- The number of arguments. -/
def size : CallArgs → Nat
  | .positional values => values.length
  | .named values => values.fields.length

/-- The array or object of the arguments. -/
def toValue : CallArgs → Value
  | .positional values => .array values
  | .named values => .fields values.fields

/-- The JSON text of the arguments. -/
def encode (args : CallArgs) : Except MarshalError String := do
  return (← args.toValue.toJson).compact

/-- What the texts of this module are called in errors. -/
def subject : String := "call arguments"

/-- The arguments of a JSON text. -/
def parse (raw : String) : Except MarshalError CallArgs :=
  match Json.parse raw with
  | .error cause => .error (.parse subject cause raw)
  | .ok json =>
    match Value.ofJson json with
    | .array items => .ok (.positional items)
    | .fields entries => .ok (.named (Dict.ofList entries))
    | _ => .error (.shape subject "expected an array or an object" raw)

end CallArgs

end ModuleHost
