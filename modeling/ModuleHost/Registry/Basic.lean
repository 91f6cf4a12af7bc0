import ModuleHost.Call.Args
import ModuleHost.Call.Envelope
import ModuleHost.Control.Basic

/-!
# The service registry

Owns the control runtime and the services registered with it.

* `Registry` — its phase (not yet initialized, initialized or terminated), its runtime and its
  services;
* `Traffic` — what the registry asks of its runtime, in order;
* `Outcome` — what one operation does: its result, the registry it leaves, the guest records and
  the traffic;
* `Registry.init`, `createService`, `callService`, `terminate`, `serviceIds`, `facadeOf`.
-/

namespace ModuleHost

/-- A registered service. -/
structure ServiceEntry where
  handle : Handle
  /-- The import name of the facade. -/
  facade : String
  deriving DecidableEq

/-- A request of the registry to its runtime. -/
inductive Traffic where
  | compiled (control : Bytes)
  /-- A registration that succeeded. -/
  | registered (handle : Handle) (service : ServiceDescriptor)
  | invoked (handle : Handle) (module function arguments : String) (parameters : CallParameters)
  | released (handle : Handle)
  deriving DecidableEq

/-- The state in which a registry is, by name. -/
inductive Registry.Phase where
  | uninitialized
  | initialized
  | terminated
  deriving DecidableEq, Repr

/-- The registry of a control runtime. -/
structure Registry (R : ControlRuntime) where
  phase : Registry.Phase := .uninitialized
  runtime : Option R.State := none
  /-- The services by id. -/
  services : Dict String ServiceEntry := Dict.empty

/-- What can be seen of the work of an execution context. -/
structure Activity where
  records : List LogRecord := []
  traffic : List Traffic := []

/-- The one activity and then the other. -/
def Activity.append (a b : Activity) : Activity := ⟨a.records ++ b.records, a.traffic ++ b.traffic⟩

instance : Append Activity := ⟨Activity.append⟩

/-- What one operation of a registry does. -/
structure Outcome (R : ControlRuntime) (α : Type) where
  /-- The result; none if the operation broke the execution context. -/
  result : Option α
  registry : Registry R
  activity : Activity := {}

namespace Outcome

variable {R : ControlRuntime} {α β : Type}

/-- An operation that ends with a result and does nothing else. -/
def still (result : α) (registry : Registry R) : Outcome R α := ⟨some result, registry, {}⟩

/-- The outcome with another form of its result. -/
def map (f : α → β) (o : Outcome R α) : Outcome R β := ⟨o.result.map f, o.registry, o.activity⟩

end Outcome

namespace Registry

variable {R : ControlRuntime}

/-- The name of a phase. -/
def Phase.name : Phase → String
  | .uninitialized => "Uninitialized"
  | .initialized => "Initialized"
  | .terminated => "Terminated"

/-- A registry before its first operation. -/
def uninitialized : Registry R := {}

/-- The ids of the services, sorted. -/
def serviceIds (r : Registry R) : List String := r.services.keys

/-- The facade of a service. -/
def facadeOf (r : Registry R) (id : String) : Option String :=
  (r.services.get? id).map (·.facade)

/-- Why a registry cannot serve: it is not initialized, or terminated. -/
def gate (r : Registry R) : Except HostError Unit :=
  match r.phase with
  | .initialized => .ok ()
  | .uninitialized => .error .notInitialized
  | .terminated => .error .terminated

/-- The runtime of a registry that can serve. -/
def ready (r : Registry R) : Except HostError R.State :=
  match r.gate, r.runtime with
  | .error e, _ => .error e
  | .ok (), none => .error .notInitialized
  | .ok (), some runtime => .ok runtime

/-- Compiles the control module. A module that does not compile leaves the registry as it was. -/
def init (r : Registry R) (control : Bytes) : Outcome R (Except HostError Unit) :=
  match r.phase with
  | .initialized => .still (.error .alreadyInitialized) r
  | .terminated => .still (.error .terminated) r
  | .uninitialized =>
    match R.compile control with
    | .error e => ⟨some (.error (.init e)), r, { traffic := [.compiled control] }⟩
    | .ok runtime =>
      ⟨some (.ok ()), { r with phase := .initialized, runtime := some runtime },
        { traffic := [.compiled control] }⟩

/-- Why a service without modules is not registered. -/
def noModules : String := "service has no modules"

/-- Enters a service that the runtime has registered; the service it replaces is released. -/
def enter (r : Registry R) (runtime : R.State) (d : ServiceDescriptor) (entry : ServiceEntry) :
    Registry R × List Traffic :=
  let services := r.services.insert d.serviceId entry
  match r.services.get? d.serviceId with
  | none => ({ r with runtime := some runtime, services := services }, [])
  | some old =>
    ({ r with runtime := some (R.release runtime old.handle), services := services },
      [.released old.handle])

/-- Registers a service with the runtime and enters it under its id. -/
def register (r : Registry R) (runtime : R.State) (d : ServiceDescriptor) (facade : String)
    (sink : Sink) : Outcome R (Except HostError Unit) :=
  let e := R.register runtime d sink
  match e.result with
  | none => ⟨none, { r with runtime := some e.state }, { records := e.records }⟩
  | some (.error cause) =>
    ⟨some (.error (.registration d.serviceId cause)), { r with runtime := some e.state },
      { records := e.records }⟩
  | some (.ok handle) =>
    let (next, released) := r.enter e.state d ⟨handle, facade⟩
    ⟨some (.ok ()), next, ⟨e.records, .registered handle d :: released⟩⟩

/-- Registers a service. A service of the same id is replaced once the new one is registered. -/
def createService (r : Registry R) (d : ServiceDescriptor) (sink : Sink) :
    Outcome R (Except HostError Unit) :=
  match r.ready with
  | .error e => .still (.error e) r
  | .ok runtime =>
    match d.facadeName? with
    | none => .still (.error (.registration d.serviceId (.registration d.serviceId noModules))) r
    | some facade => r.register runtime d facade sink

/-- The value that the text of an envelope reports for a call of `function`. -/
def readReply (function raw : String) : Except HostError Value :=
  match Envelope.decode raw with
  | .error e => .error (.marshal e)
  | .ok envelope =>
    match envelope.outcome with
    | .ok v => .ok v
    | .error message => .error (.guest (.failed function message))

/-- What the runtime's answer to an invocation of `function` means to the caller. -/
def readAnswer (function : String) : Except RuntimeError String → Except HostError Value
  | .error cause => .error (.ofRuntime cause)
  | .ok raw => readReply function raw

/-- Invokes a function of the facade of an entry. -/
def invoke (r : Registry R) (runtime : R.State) (entry : ServiceEntry)
    (function arguments : String) (parameters : CallParameters) :
    Outcome R (Except HostError Value) :=
  let e := R.invoke runtime entry.handle entry.facade function arguments parameters
  ⟨e.result.map (readAnswer function), { r with runtime := some e.state },
    ⟨e.records, [.invoked entry.handle entry.facade function arguments parameters]⟩⟩

/-- Calls a function of the facade of a service. -/
def callService (r : Registry R) (id function : String) (args : CallArgs)
    (parameters : CallParameters) : Outcome R (Except HostError Value) :=
  match r.ready with
  | .error e => .still (.error e) r
  | .ok runtime =>
    match r.services.get? id with
    | none => .still (.error (.serviceNotFound id)) r
    | some entry =>
      match args.encode with
      | .error e => .still (.error (.marshal e)) r
      | .ok arguments => r.invoke runtime entry function arguments parameters

/-- Releases every service, in order of id, if there is a runtime. -/
def releases (r : Registry R) : List Traffic :=
  match r.runtime with
  | none => []
  | some _ => r.services.values.map fun e => .released e.handle

/-- Discards every service and the runtime. A terminated registry stays as it is. -/
def terminate (r : Registry R) : Outcome R (Except HostError Unit) :=
  if r.phase = .terminated then .still (.ok ()) r
  else ⟨some (.ok ()), { phase := .terminated }, { traffic := r.releases }⟩

end Registry

end ModuleHost
