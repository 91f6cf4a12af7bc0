import ModuleHost.Control.Basic
import ModuleHost.Engine.Invocation
import ModuleHost.Engine.Registration

/-!
# The engine

The control runtime that runs WebAssembly modules.

* `Service` — a registered service: its store and its modules;
* `Service.build`, `Service.invoke` — a service is instantiated; a function of it is invoked;
* `Engine` — the compiled control module and the services by handle;
* `Engine.compile`, `register`, `invoke`, `release` — its operations;
* `Engine.controlRuntime` — the engine as a control runtime.
-/

namespace ModuleHost

open Wasm (Regime Module)

/-- A registered service. -/
structure Service where
  store : Wasm.Store guests
  modules : RegisteredModules

/-- The store after an operation, what was noted while it ran set aside. -/
def settled (s : Wasm.Store guests) : Wasm.Store guests :=
  { s with data := { s.data with records := [], exchanges := [] } }

namespace Service

/-- The store in which a service is registered. -/
def freshStore (d : ServiceDescriptor) (sink : Sink) : Wasm.Store guests :=
  { data := { serviceId := d.serviceId, sink := sink } }

/-- Instantiates the modules of a service in a store of its own. -/
def build (regime : Regime) (control : Module) (d : ServiceDescriptor) (sink : Sink) :
    Effect Unit Service :=
  match (registerModules regime control d).run (freshStore d sink) with
  | .value (.ok modules) s => .returned ⟨settled s, modules⟩ () s.data.records
  | .value (.error cause) s => .failed cause () s.data.records
  | .stop _ s => .broken () s.data.records

/-- The service after an operation that left its store as `s`. -/
def put (service : Service) (s : Wasm.Store guests) : Service :=
  { service with store := settled s }

/-- The module of a service and the arguments in order, if a function can be invoked. -/
def prepare (service : Service) (module function arguments : String) :
    Except RuntimeError (RegisteredModule × String) :=
  match service.modules.get? module with
  | none => .error (.unknownModule module)
  | some m =>
    match m.interface.function? function with
    | none => .error (.guest (.missingFunction function))
    | some signature =>
      match signature.arguments arguments with
      | .error cause => .error (.guest cause)
      | .ok ordered => .ok (m, ordered)

/-- Calls an export of a module of a service. -/
def callModule (regime : Regime) (m : RegisteredModule) (function arguments : String)
    (parameters : CallParameters) : Guest (Except GuestError RawOutput) := do
  let i := (← Wasm.Run.store).instances.getD m.place {}
  withParameters parameters
    (callExport i (Wasm.invoke hostFunctions regime regime.stack none) function
      (Text.bytes arguments))

/-- Invokes a function of a module of a service. -/
def invoke (regime : Regime) (service : Service) (module function arguments : String)
    (parameters : CallParameters) : Effect Service String :=
  match service.prepare module function arguments with
  | .error cause => .failed cause service
  | .ok (m, ordered) =>
    match callModule regime m function ordered parameters service.store with
    | .stop _ s => .broken (service.put s) s.data.records
    | .value called s =>
      match called.bind (RawOutput.envelope function) with
      | .error cause => .failed (.guest cause) (service.put s) s.data.records
      | .ok envelope => .returned envelope.text (service.put s) s.data.records

end Service

/-- A compiled control module and the services registered with it. -/
structure Engine where
  regime : Regime
  control : Module
  services : Dict Nat Service := Dict.empty
  nextHandle : Nat := 1

namespace Engine

/-- Compiles a control module, which may not import anything. It is taken in the binary format: the
text format, which an engine may read as well, is refused. -/
def compile (regime : Regime) (control : Bytes) : Except RuntimeError Engine :=
  match Module.decode? control with
  | none => .error (.compile engineTag)
  | some m =>
    match m.imports with
    | [] => .ok { regime := regime, control := m }
    | i :: _ => .error (.controlImports i.module i.name)

/-- Enters a service under the next handle. -/
def add (e : Engine) (service : Service) : Engine :=
  { e with
    services := e.services.insert e.nextHandle service
    nextHandle := e.nextHandle + 1 }

/-- Registers a service. A failure leaves the engine as it was. -/
def register (e : Engine) (d : ServiceDescriptor) (sink : Sink) : Effect Engine Handle :=
  let built := Service.build e.regime e.control d sink
  match built.result with
  | none => .broken e built.records
  | some (.error cause) => .failed cause e built.records
  | some (.ok service) => .returned ⟨e.nextHandle⟩ (e.add service) built.records

/-- Puts a service back after an operation. -/
def put (e : Engine) (handle : Handle) (service : Service) : Engine :=
  { e with services := e.services.insert handle.number service }

/-- Invokes a function of a module of a service. -/
def invoke (e : Engine) (handle : Handle) (module function arguments : String)
    (parameters : CallParameters) : Effect Engine String :=
  match e.services.get? handle.number with
  | none => .failed (.unknownHandle handle) e
  | some service =>
    (service.invoke e.regime module function arguments parameters).mapState (e.put handle)

/-- Drops a service. -/
def release (e : Engine) (handle : Handle) : Engine :=
  { e with services := e.services.erase handle.number }

/-- The engine as a control runtime. -/
def controlRuntime (regime : Regime) : ControlRuntime where
  State := Engine
  compile := compile regime
  register := register
  invoke := invoke
  release := release

end Engine

end ModuleHost
