import ModuleHost.Json.Basic
import ModuleHost.Log.Filter
import ModuleHost.Text.Utf8

/-!
# Guest log records

* `LogRecord` — what a guest logs, as the host passes it on;
* `Sink` — the receiver of records; it may break down on one;
* `Logger` — the gates of one module: its switch, its mask and its filter;
* `Logger.admits`, `Logger.record?`, `Logger.recordBytes` — whether a level passes; the record
  that a call passes on.
-/

namespace ModuleHost

/-- A guest's log record. -/
structure LogRecord where
  /-- Id of the service whose module logs. -/
  service : String
  message : String
  level : LogLevel
  deriving DecidableEq, Repr

/-- The receiver of records, known by the records on which it breaks down. -/
structure Sink where
  breaksOn : LogRecord → Bool

/-- The sink that takes every record. -/
def Sink.total : Sink := ⟨fun _ => false⟩

/-- The gates between a module and the sink. -/
structure Logger where
  service : String
  module : String
  enabled : Bool
  mask : LogMask
  /-- The module's bound in its filter. -/
  bound : Option Threshold
  deriving DecidableEq, Repr

namespace Logger

/-- The logger of a module with the filter text `wasmLog`. -/
def ofSettings (service module : String) (enabled : Bool) (mask : LogMask) (wasmLog : String) :
    Logger :=
  ⟨service, module, enabled, mask, (LogFilter.parse wasmLog).bound? module⟩

/-- Whether records of a level pass. -/
def admits (g : Logger) (l : LogLevel) : Bool :=
  g.enabled && g.mask.allows l && (g.bound.any (·.admits l))

/-- The record of a message, if its level passes. -/
def record? (g : Logger) (guestLevel : Int32) (message : String) : Option LogRecord :=
  let level := LogLevel.ofGuest guestLevel
  if g.admits level then some ⟨g.service, message, level⟩ else none

/-- The warning about a record whose bytes are no text. -/
def notTextWarning : String := "guest log record is not valid UTF-8, dropping it"

/-- The record of a message given as bytes; a record is dropped with a warning unless its target
and its message are text. -/
def recordBytes (g : Logger) (guestLevel : Int32) (target message : List UInt8) :
    Except String (Option LogRecord) :=
  match Text.strict? target, Text.strict? message with
  | some _, some message => .ok (g.record? guestLevel message)
  | _, _ => .error notTextWarning

end Logger

end ModuleHost
