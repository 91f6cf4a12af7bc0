import ModuleHost.Config.Resolve
import ModuleHost.Engine.Imports
import ModuleHost.Interface.Basic
import ModuleHost.Wasm.Instantiation
import ModuleHost.Wasm.Validation

/-!
# Registering a service

The modules of a service are instantiated one after another in one store. A module may import from
the host, from the control module and from the modules before it.

* `RegisteredModule`, `RegisteredModules` — an instantiated module; those registered so far;
* `checkImport`, `checkImports` — whether an import names something that a module may import;
* `addModule` — instantiates one module;
* `registerModules` — instantiates the control module and the modules of a service.
-/

namespace ModuleHost

open Wasm (Run Instance Extern Regime Module)

/-- The import namespace of the host's functions. -/
def hostNamespace : String := "host"

/-- The import namespace of what the control module exports. -/
def controlNamespace : String := "control"

/-- A module that is instantiated. -/
structure RegisteredModule where
  /-- The place of its instance. -/
  place : Nat
  interface : Interface
  deriving DecidableEq

/-- Modules that are instantiated, by import name. -/
abbrev RegisteredModules := Dict String RegisteredModule

/-! ## Imports -/

/-- An import from a sibling is a function that the sibling exports as callable; otherwise the
reason why it is refused. -/
def checkSiblingImport (s : Wasm.Store guests) (sibling : RegisteredModule) (i : Wasm.Import) :
    Except String Unit :=
  match i.type with
  | .func _ =>
    match (s.instances[sibling.place]?).bind (exportedFunction? · i.name) with
    | none => .error s!"imports `{i.module}::{i.name}`, which `{i.module}` does not export"
    | some place =>
      if hasType s place callableType then .ok ()
      else
        .error (s!"imports `{i.module}::{i.name}`, which is not callable as " ++
          "(i32, i32, i32, i32) -> i32")
  | _ => .error s!"import `{i.module}::{i.name}` must be a function"

/-- Whether an import is from a sibling. -/
def isSiblingImport (i : Wasm.Import) : Bool :=
  i.module ≠ hostNamespace && i.module ≠ controlNamespace

/-- Checks an import against the modules before; imports from the host and the control module are
checked when they are linked. -/
def checkImport (s : Wasm.Store guests) (earlier : RegisteredModules) (i : Wasm.Import) :
    Except String Unit :=
  if isSiblingImport i then
    match earlier.get? i.module with
    | some sibling => checkSiblingImport s sibling i
    | none =>
      .error (s!"imports `{i.module}::{i.name}` but `{i.module}` is not an earlier module of " ++
        "this service")
  else .ok ()

/-- Checks imports from left to right. -/
def checkImports (s : Wasm.Store guests) (earlier : RegisteredModules) :
    List Wasm.Import → Except String Unit
  | [] => .ok ()
  | i :: is => do
    checkImport s earlier i
    checkImports s earlier is

/-! ## Linking -/

/-- The functions that a module can import, by module and name: those of the host, then those that
it imports from siblings. -/
def importable (position : Nat) (imports : List Wasm.Import) :
    List ((String × String) × HostFunction) :=
  [((hostNamespace, "log_utf8_string"), .log position),
   ((hostNamespace, "get_call_parameters"), .callParameters)] ++
    (imports.filter isSiblingImport).map fun i => ((i.module, i.name), .sibling i.module i.name)

/-- Why a module that imports one function of a sibling twice is refused. -/
def duplicateImport : String := s!"Function registration failed: {engineTag}"

/-- Adds the functions that a module can import to a store; they are given with their places. -/
def offer (functions : List ((String × String) × HostFunction)) :
    Guest (List ((String × String) × Nat)) := fun s =>
  let places := Wasm.newPlaces s.functions functions.length
  .value ((functions.map (·.1)).zip places)
    { s with functions := s.functions ++ functions.map fun f => .host f.2.type f.2 }

/-- What an import names: an export of the control module or a function that is offered. -/
def resolveImport (control : Instance) (offered : List ((String × String) × Nat))
    (i : Wasm.Import) : Option Extern :=
  if i.module = controlNamespace then control.export? i.name
  else (offered.lookup (i.module, i.name)).map .func

/-! ## Modules -/

/-- A computation on the store of a service that is being registered. -/
abbrev Registering (α : Type) := ExceptT RuntimeError Guest α

/-- The value of a result, an error refusing the module. -/
def orRefuse {α : Type} (module : String) : Except String α → Registering α
  | .ok a => pure a
  | .error reason => throw (.registration module reason)

/-- The value of an option, the engine refusing the module without one. -/
def orEngine {α : Type} (module : String) : Option α → Registering α
  | some a => pure a
  | none => throw (.registration module engineTag)

/-- Runs guest code, an early end refusing the module. -/
def runOrRefuse {α : Type} (module : String) (x : Guest α) : Registering α := do
  match ← (x.attempt : Guest _) with
  | .ok a => return a
  | .error why => throw (.registration module (stopText why))

/-- Adds the logger of the next module. -/
def addLogger (logger : Logger) : Guest Unit :=
  Run.modify fun s => { s with data := { s.data with loggers := s.data.loggers ++ [logger] } }

/-- Enters the instance of a module into the directory for sibling calls. -/
def enterDirectory (module : String) (place : Nat) : Guest Unit :=
  Run.modify fun s =>
    { s with data := { s.data with directory := s.data.directory.insert module place } }

/-- The logger of a module of a service. -/
def ModuleDescriptor.logger (d : ModuleDescriptor) (serviceId : String) : Logger :=
  .ofSettings serviceId d.importName d.config.loggerEnabled d.config.loggingMask d.config.wasmLog

/-- Links and instantiates a module. -/
def instantiateLinked (regime : Regime) (control : Nat) (name : String) (m : Module)
    (functions : List ((String × String) × HostFunction)) : Registering Nat := do
  let offered ← (offer functions : Guest _)
  let s ← (Run.store : Guest _)
  let parts ← orEngine name (m.link? s (resolveImport (s.instances.getD control {}) offered))
  runOrRefuse name (m.instantiate hostFunctions regime parts)

/-- Instantiates a module: its metadata and its file are read, its imports checked and linked, its
data placed and its start function run; then it must have an allocator. -/
def addModule (regime : Regime) (control : Nat) (serviceId : String) (earlier : RegisteredModules)
    (d : ModuleDescriptor) : Registering RegisteredModule := do
  let name := d.importName
  let position := (← (Run.store : Guest _)).data.loggers.length
  (addLogger (d.logger serviceId) : Guest _)
  let interface ←
    orRefuse name ((Interface.ofModule d.bytes.bytes).mapError InterfaceError.plainMessage)
  let m ← orEngine name (Module.decode? d.bytes.bytes)
  orRefuse name (checkImports (← (Run.store : Guest _)) earlier m.imports)
  let functions := importable position m.imports
  orRefuse name (if (functions.map (·.1)).Nodup then .ok () else .error duplicateImport)
  let place ← instantiateLinked regime control name m functions
  let s ← (Run.store : Guest _)
  orRefuse name
    ((Allocator.ofInstance s (s.instances.getD place {})).mapError AbiFault.message |>.map
      fun _ => ())
  (enterDirectory name place : Guest _)
  return ⟨place, interface⟩

/-- Instantiates modules in order. -/
def addModules (regime : Regime) (control : Nat) (serviceId : String)
    (earlier : RegisteredModules) : List ModuleDescriptor → Registering RegisteredModules
  | [] => return earlier
  | d :: ds => do
    let entry ← addModule regime control serviceId earlier d
    addModules regime control serviceId (earlier.insert d.importName entry) ds

/-- Instantiates the control module and then the modules of a service. -/
def registerModules (regime : Regime) (control : Module) (d : ServiceDescriptor) :
    Registering RegisteredModules := do
  let place ← runOrRefuse controlNamespace (control.instantiate hostFunctions regime [])
  addModules regime place d.serviceId Dict.empty d.modules

end ModuleHost
