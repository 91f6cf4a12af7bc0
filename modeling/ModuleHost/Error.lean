import ModuleHost.Call.Value
import ModuleHost.Config.Basic

/-!
# Errors

* `Handle` — the reference to a registered service;
* `GuestError` — a failure while a guest function runs; each names the function involved;
* `RuntimeError` — a failure of the control runtime;
* `HostError` — a failure of an operation of the host; `HostError.ofRuntime` keeps guest errors
  apart from the others.
-/

namespace ModuleHost

/-- The reference to a registered service. -/
structure Handle where
  number : Nat
  deriving DecidableEq, Repr

/-- How a handle is shown. -/
def Handle.caption (h : Handle) : String := s!"#{h.number}"

/-- A failure while a guest function runs. -/
inductive GuestError where
  | missingFunction (function : String)
  | argumentMismatch (function reason : String)
  /-- A trap, or a breach of the calling convention. -/
  | fault (function message : String)
  /-- The guest completed the call and reported an error. -/
  | failed (function message : String)
  deriving DecidableEq, Repr

namespace GuestError

/-- The function involved. -/
def function : GuestError → String
  | .missingFunction f => f
  | .argumentMismatch f _ => f
  | .fault f _ => f
  | .failed f _ => f

/-- The text of an error. -/
def message : GuestError → String
  | .missingFunction f => s!"function with name `{f}` is missing"
  | .argumentMismatch f reason => s!"function `{f}` called with mismatched arguments: {reason}"
  | .fault f message => s!"function `{f}` failed to execute: {message}"
  | .failed f message => s!"function `{f}` returned an error: {message}"

end GuestError

/-- A failure of the control runtime. -/
inductive RuntimeError where
  | compile (message : String)
  | controlImports (module name : String)
  | registration (module reason : String)
  | unknownHandle (handle : Handle)
  | unknownModule (module : String)
  | guest (cause : GuestError)
  deriving DecidableEq, Repr

/-- The text of an error. -/
def RuntimeError.message : RuntimeError → String
  | .compile message => s!"control module failed to compile: {message}"
  | .controlImports module name =>
    s!"control module must not import anything, found `{module}::{name}`"
  | .registration module reason => s!"module `{module}` cannot be registered: {reason}"
  | .unknownHandle handle => s!"no service registered under handle {handle.caption}"
  | .unknownModule module => s!"module `{module}` is not part of the service"
  | .guest cause => cause.message

/-- A failure of an operation of the host. -/
inductive HostError where
  | init (cause : RuntimeError)
  | alreadyInitialized
  | notInitialized
  | terminated
  | contextLost
  | config (cause : ConfigError)
  | registration (serviceId : String) (cause : RuntimeError)
  | serviceNotFound (serviceId : String)
  | marshal (cause : MarshalError)
  | guest (cause : GuestError)
  | runtime (cause : RuntimeError)
  deriving DecidableEq

namespace HostError

/-- The text of an error, with `json` for the cause of unreadable JSON. -/
def messageWith (json : Json.ReadError → String) : HostError → String
  | .init cause => s!"failed to initialize the control runtime: {cause.message}"
  | .alreadyInitialized => "service host is already initialized"
  | .notInitialized => "service host is not initialized"
  | .terminated => "service host is terminated"
  | .contextLost => "execution context is gone"
  | .config cause => s!"invalid service configuration: {cause.messageWith json}"
  | .registration serviceId cause => s!"failed to register service `{serviceId}`: {cause.message}"
  | .serviceNotFound serviceId => s!"service with id `{serviceId}` not found"
  | .marshal cause => cause.messageWith json
  | .guest cause => cause.message
  | .runtime cause => s!"control runtime error: {cause.message}"

/-- The text of an error. -/
def message (e : HostError) : String := e.messageWith Json.ReadError.tag

/-- The host's view of a failure of the runtime: guest errors are its own kind. -/
def ofRuntime : RuntimeError → HostError
  | .guest cause => .guest cause
  | cause => .runtime cause

end HostError

end ModuleHost
