import ModuleHost.CommandLine.Grammar

/-!
# Requests of the command line

* `CallRequest`, `Request` — one call of a service; a request;
* `Request.parse` — the request of a list of arguments;
* `Request.paths` — the files that a request names.
-/

namespace ModuleHost.CommandLine

/-- One call of a service that is registered for it. -/
structure CallRequest where
  /-- Import names and files of the modules; the last is the facade. -/
  modules : List (String × String) := []
  control : Option String := none
  config : Option String := none
  envs : List (String × String) := []
  params : Option String := none
  serviceId : String := "cli"
  function : Option String := none
  args : String := "[]"
  deriving DecidableEq, Repr

/-- A display of what a module file says. -/
structure InspectRequest where
  file : Option String := none
  json : Bool := false
  deriving DecidableEq, Repr

/-- A request. -/
inductive Request where
  | inspect (file : String) (json : Bool)
  | call (request : CallRequest) (function : String)
  deriving DecidableEq, Repr

/-- The key and the value of a pair. -/
def pair (raw : String) : Except UsageError (String × String) :=
  match splitEquals raw.toList with
  | (_, none) => .error (.noEquals raw)
  | ([], some _) => .error (.emptyKey raw)
  | (key, some value) => .ok (String.ofList key, String.ofList value)

/-- A path, which may not be empty. -/
def path (raw : String) : Except UsageError String :=
  if raw.isEmpty then .error .misused else .ok raw

/-- The arguments of `inspect`. -/
def inspectGrammar : Grammar InspectRequest where
  flags := [{ long := "json", intake := .switch fun r => { r with json := true } }]
  positionals := [fun r s => do return { r with file := some (← path s) }]

/-- The arguments of `call`. -/
def callGrammar : Grammar CallRequest where
  flags :=
    [{ long := "module", short := some 'm', repeatable := true,
       intake := .value fun r s => do return { r with modules := r.modules ++ [← pair s] } },
     { long := "control", intake := .value fun r s => do return { r with control := ← path s } },
     { long := "config", intake := .value fun r s => do return { r with config := ← path s } },
     { long := "env", short := some 'e', repeatable := true,
       intake := .value fun r s => do return { r with envs := r.envs ++ [← pair s] } },
     { long := "params", intake := .value fun r s => do return { r with params := ← path s } },
     { long := "service-id", intake := .value fun r s => .ok { r with serviceId := s } }]
  positionals :=
    [fun r s => .ok { r with function := some s }, fun r s => .ok { r with args := s }]

namespace Request

/-- The request of a list of arguments. -/
def parse : List String → Except UsageError Request
  | "inspect" :: arguments => do
    let r ← inspectGrammar.parse {} arguments
    match r.file with
    | some file => return .inspect file r.json
    | none => throw .misused
  | "call" :: arguments => do
    let r ← callGrammar.parse {} arguments
    match r.function, r.modules with
    | some function, _ :: _ => return .call r function
    | _, _ => throw .misused
  | _ => .error .misused

/-- The files that a request names. -/
def paths : Request → List String
  | .inspect file _ => [file]
  | .call r _ => r.control.toList ++ r.modules.map (·.2) ++ r.config.toList ++ r.params.toList

end Request

end ModuleHost.CommandLine
