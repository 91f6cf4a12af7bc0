import ModuleHost.Registry.Basic

/-!
# Commands to a registry

What an execution context does for one request.

* `Command`, `Reply` — what is asked of a registry and what it replies;
* `Registry.handle` — the reply to a command.
-/

namespace ModuleHost

/-- A command to a registry. -/
inductive Command where
  | init (control : ModuleBytes)
  | createService (id : String) (modules : ModuleSet) (config : Option ServiceConfig)
      (envs : Option Envs)
  | callService (id function : String) (args : CallArgs) (parameters : CallParameters)
  | serviceIds
  | facadeOf (id : String)
  | terminate

/-- The reply to a command. -/
inductive Reply where
  | done (result : Except HostError Unit)
  | value (result : Except HostError Value)
  | serviceIds (ids : List String)
  | facade (name : Option String)

namespace Registry

variable {R : ControlRuntime}

/-- Resolves and registers a service. That the registry cannot serve is reported before anything
is resolved. -/
def resolveAndCreate (r : Registry R) (sink : Sink) (id : String) (modules : ModuleSet)
    (config : Option ServiceConfig) (envs : Option Envs) :
    Outcome R (Except HostError Unit) :=
  match r.gate with
  | .error e => .still (.error e) r
  | .ok () =>
    match ServiceDescriptor.resolve id modules config envs with
    | .error e => .still (.error (.config e)) r
    | .ok d => r.createService d sink

/-- Carries out a command. -/
def handle (r : Registry R) (sink : Sink) : Command → Outcome R Reply
  | .init control => (r.init control.bytes).map .done
  | .createService id modules config envs =>
    (r.resolveAndCreate sink id modules config envs).map .done
  | .callService id function args parameters =>
    (r.callService id function args parameters).map .value
  | .serviceIds => .still (.serviceIds r.serviceIds) r
  | .facadeOf id => .still (.facade (r.facadeOf id)) r
  | .terminate => r.terminate.map .done

end Registry

end ModuleHost
