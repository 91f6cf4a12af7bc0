import ModuleHost.Call.Envelope
import ModuleHost.Control.Basic

/-!
# A runtime that follows a script

Runs no guests: each invocation is answered from a script, so that what stands around a runtime can
be tried without one.

* `ScriptEnd`, `ScriptEntry`, `Script` — what the functions do when they are invoked;
* `ScriptedRuntime` — its state: the services registered and the number of handles given out;
* `ScriptedRuntime.control` — the runtime of a script.
-/

namespace ModuleHost

/-- How an invocation ends. -/
inductive ScriptEnd where
  /-- The envelope names the module. -/
  | normal
  /-- The execution context breaks down. -/
  | breakDown
  /-- A text is returned as it stands. -/
  | raw (text : String)
  | fail (error : RuntimeError)

/-- What a function does when it is invoked. -/
structure ScriptEntry where
  /-- The message it logs first. -/
  log : Option String := none
  ending : ScriptEnd := .normal

/-- What functions do, by name. -/
abbrev Script := Dict String ScriptEntry

/-- The state of a runtime that follows a script. -/
structure ScriptedRuntime where
  /-- The number of handles given out. -/
  issued : Nat := 0
  /-- The id and the sink of each service. -/
  services : Dict Nat (String × Sink) := Dict.empty

namespace ScriptedRuntime

/-- A file that does not compile. -/
def brokenFile : Bytes := Text.bytes "broken"

/-- A file with an import. -/
def importingFile : Bytes := Text.bytes "imports"

/-- Compiles a control module: two files are refused. -/
def compile (control : Bytes) : Except RuntimeError ScriptedRuntime :=
  if control = brokenFile then .error (.compile "broken")
  else if control = importingFile then .error (.controlImports "env" "f")
  else .ok {}

/-- Registers a service whose modules all have bytes. -/
def register (s : ScriptedRuntime) (d : ServiceDescriptor) (sink : Sink) :
    Effect ScriptedRuntime Handle :=
  match d.modules.find? (·.bytes.isEmpty) with
  | some m => .failed (.registration m.importName "no bytes") s
  | none =>
    let handle := s.issued + 1
    .returned ⟨handle⟩ ⟨handle, s.services.insert handle (d.serviceId, sink)⟩

/-- The record that an entry sends to the sink of its service. -/
def record? (s : ScriptedRuntime) (handle : Handle) (entry : ScriptEntry) :
    Option (LogRecord × Sink) := do
  let message ← entry.log
  let (id, sink) ← s.services.get? handle.number
  return (⟨id, message, .info⟩, sink)

/-- The end of an invocation of a function of `module`. -/
def finish (s : ScriptedRuntime) (module : String) (records : List LogRecord) :
    ScriptEnd → Effect ScriptedRuntime String
  | .normal => .returned (Envelope.ok (.string module)).text s records
  | .breakDown => .broken s records
  | .raw text => .returned text s records
  | .fail e => .failed e s records

/-- Invokes a function as the script says. -/
def invoke (script : Script) (s : ScriptedRuntime) (handle : Handle)
    (module function _arguments : String) (_parameters : CallParameters) :
    Effect ScriptedRuntime String :=
  let entry := (script.get? function).getD {}
  match s.record? handle entry with
  | none => s.finish module [] entry.ending
  | some (record, sink) =>
    if sink.breaksOn record then .broken s else s.finish module [record] entry.ending

/-- Drops a service. -/
def release (s : ScriptedRuntime) (handle : Handle) : ScriptedRuntime :=
  { s with services := s.services.erase handle.number }

/-- The runtime of a script. -/
def control (script : Script) : ControlRuntime where
  State := ScriptedRuntime
  compile := compile
  register := register
  invoke := invoke script
  release := release

end ScriptedRuntime

end ModuleHost
