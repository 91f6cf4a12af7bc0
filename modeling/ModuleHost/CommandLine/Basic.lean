import ModuleHost.CommandLine.Files
import ModuleHost.CommandLine.Request
import ModuleHost.Engine.Control
import ModuleHost.Host.Basic
import ModuleHost.Interface.Summary

/-!
# The command line

* `Failure` — why a request fails; `Failure.message`;
* `showModule`, `callOnce` — what the two commands print;
* `Exit`, `run` — what a run of the program leaves behind.
-/

namespace ModuleHost.CommandLine

/-- Why a request fails. -/
inductive Failure where
  | unreadable (path : String)
  | notWasm (cause : InterfaceError)
  | badParameters (path : String)
  | config (cause : ConfigError)
  | marshal (cause : MarshalError)
  | host (cause : HostError)

/-- The text that is shown. -/
def Failure.message : Failure → String
  | .unreadable path => s!"Failed to read {path}"
  | .notWasm cause => s!"Failed to parse WASM: {cause.plainMessage}"
  | .badParameters path => s!"Invalid call parameters in {path}"
  | .config cause => cause.messageWith Json.ReadError.plainTag
  | .marshal cause => cause.messageWith Json.ReadError.plainTag
  | .host cause => cause.messageWith Json.ReadError.plainTag

/-- The bytes of a file. -/
def readFile (files : Files) (path : String) : Except Failure Bytes :=
  (files path).mapError fun _ => .unreadable path

/-- Lines as they are printed. -/
def printed (lines : List String) : String := String.join (lines.map (· ++ "\n"))

/-- What `inspect` prints: what a module file says about itself. -/
def showModule (files : Files) (file : String) (json : Bool) : Except Failure String := do
  match Summary.ofModule (← readFile files file) with
  | .error cause => throw (.notWasm cause)
  | .ok summary => return printed (if json then [summary.toJson.pretty] else summary.lines)

/-! ## Calls -/

/-- A control module with nothing in it. -/
def emptyControl : Bytes := [0x00, 0x61, 0x73, 0x6D, 0x01, 0x00, 0x00, 0x00]

/-- The text in a file. -/
def readText (files : Files) (path : String) : Except ReadFault String := do
  match Text.strict? (← files path) with
  | some text => return text
  | none => throw .notText

/-- The configuration in a file. -/
def loadConfig (files : Files) (path : String) : Except Failure ServiceConfig :=
  match readText files path with
  | .error fault => .error (.config (.read path fault.message))
  | .ok raw => (ServiceConfig.parse raw).mapError .config

/-- The call parameters in a file. -/
def loadParameters (files : Files) (path : String) : Except Failure CallParameters := do
  match CallParameters.parse (Text.decode (← readFile files path)) with
  | .ok p => return p
  | .error _ => throw (.badParameters path)

/-- What a call needs, read from files. -/
structure Prepared where
  control : Bytes
  modules : ModuleSet
  config : Option ServiceConfig
  params : Option CallParameters
  args : CallArgs
  envs : Option Envs

/-- Reads what a call needs: the control module, the modules, the configuration, the parameters
and the arguments, in this order. -/
def prepare (files : Files) (r : CallRequest) : Except Failure Prepared := do
  let control ← match r.control with
    | some path => readFile files path
    | none => pure emptyControl
  let modules ← r.modules.mapM fun m => do
    return (m.1, ModuleBytes.owned (← readFile files m.2))
  let config ← r.config.mapM (loadConfig files)
  let params ← r.params.mapM (loadParameters files)
  let args ← (CallArgs.parse r.args).mapError Failure.marshal
  let envs := if r.envs.isEmpty then none else some (Dict.ofList r.envs)
  return ⟨control, modules, config, params, args, envs⟩

/-- How the engine of the command line runs guests. -/
def regime : Wasm.Regime := { traced := true }

/-- A host on the engine. -/
abbrev CliHost := Host (Engine.controlRuntime regime)

/-- Runs an operation that must succeed. -/
def perform (h : CliHost) (op : Operation) : Except Failure (Answer × CliHost) :=
  match h.run op with
  | (.ok answer, h, _) => .ok (answer, h)
  | (.error cause, _, _) => .error (.host cause)

/-- The JSON of the value that a call gave. -/
def returned : Answer → Except Failure Json
  | .value v => v.toJson.mapError Failure.marshal
  | _ => .ok .null

/-- What `call` prints: a host is set up, the service registered, the function called and the host
terminated. -/
def callOnce (files : Files) (r : CallRequest) (function : String) : Except Failure String := do
  let p ← prepare files r
  let (_, h) ← perform { sink := Sink.total } (.init (.owned p.control))
  let (_, h) ← perform h (.createService r.serviceId p.modules p.config p.envs)
  let (answer, _) ← perform h (.callService r.serviceId function p.args p.params)
  return printed [(← returned answer).pretty]

/-! ## Runs -/

/-- What a run of the program leaves behind. -/
structure Exit where
  code : UInt32
  stdout : String := ""
  stderr : Option String := none
  deriving DecidableEq, Repr

/-- The first line of a text. A carriage return at its end belongs to the end of the line. -/
def firstLine (s : String) : String :=
  let line := s.toList.takeWhile (· ≠ '\n')
  String.ofList (if line.getLast? = some '\r' then line.dropLast else line)

/-- The exit of a request. -/
def exitOf : Except Failure String → Exit
  | .ok text => { code := 0, stdout := text }
  | .error cause => { code := 1, stderr := some (firstLine ("Error: " ++ cause.message)) }

/-- Carries out a request. -/
def Request.run (files : Files) : Request → Exit
  | .inspect file json => exitOf (showModule files file json)
  | .call r function => exitOf (callOnce files r function)

/-- Carries out the request that the arguments make. -/
def run (files : Files) (arguments : List String) : Exit :=
  match Request.parse arguments with
  | .ok request => request.run files
  | .error e => { code := 2, stderr := some (firstLine e.message) }

end ModuleHost.CommandLine
