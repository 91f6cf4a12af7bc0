import ModuleHost.Bytes
import ModuleHost.Config.Basic

/-!
# Resolving services

The modules supplied for a service, its configuration and the host's environment variables give
the modules in the order in which they are instantiated, each with its bytes and settings.

* `ModuleDescriptor`, `ServiceDescriptor` — a resolved module; a resolved service;
* `checkSupplied`, `checkConfigured` — the first fault of the supplied names, of the entries;
* `ServiceDescriptor.resolve` — the resolved service;
* `ServiceDescriptor.facade?` — the last module, the only one that callers reach.
-/

namespace ModuleHost

/-- Modules by import name, in the caller's order. -/
abbrev ModuleSet := List (String × ModuleBytes)

/-- A resolved module. -/
structure ModuleDescriptor where
  importName : String
  bytes : ModuleBytes
  config : ModuleConfig
  deriving DecidableEq

/-- A resolved service. -/
structure ServiceDescriptor where
  serviceId : String
  /-- The modules in order of instantiation; the last is the facade. -/
  modules : List ModuleDescriptor
  /-- The settings given for modules without an entry. -/
  fallback : Option ModuleConfig
  deriving DecidableEq

/-- Checks names from left to right, `seen` being those before them. -/
def checkSupplied (seen : List String) : List String → Except ConfigError Unit
  | [] => .ok ()
  | name :: names =>
    if name.isEmpty then .error .emptyImportName
    else if seen.contains name then .error (.duplicateModule name)
    else checkSupplied (name :: seen) names

/-- Checks the names of entries from left to right against those supplied. -/
def checkConfigured (supplied seen : List String) : List String → Except ConfigError Unit
  | [] => .ok ()
  | name :: names =>
    if name.isEmpty then .error .emptyImportName
    else if seen.contains name then .error (.duplicateModule name)
    else if !supplied.contains name then .error (.missingBytes name)
    else checkConfigured supplied (name :: seen) names

namespace ServiceDescriptor

/-- The names and settings in order of instantiation: modules without an entry as supplied, then
those with one as configured. -/
def order (modules : ModuleSet) (config : ServiceConfig) : List (String × ModuleConfig) :=
  let configured := config.modules.map (·.importName)
  let unconfigured := (modules.map (·.1)).filter fun name => !configured.contains name
  unconfigured.map (fun name => (name, config.fallback.getD {})) ++
    config.modules.map fun e => (e.importName, e.config)

/-- The descriptor of a module named in the order. -/
def describe (modules : ModuleSet) (envs : Option Envs) (e : String × ModuleConfig) :
    Except ConfigError ModuleDescriptor :=
  match modules.lookup e.1 with
  | some bytes => .ok ⟨e.1, bytes, e.2.resolveEnvs envs⟩
  | none => .error (.missingBytes e.1)

/-- The resolved service. -/
def resolve (serviceId : String) (modules : ModuleSet) (config : Option ServiceConfig)
    (envs : Option Envs) : Except ConfigError ServiceDescriptor := do
  if modules.isEmpty then throw (.noModules serviceId)
  let supplied := modules.map (·.1)
  checkSupplied [] supplied
  let config := config.getD {}
  checkConfigured supplied [] (config.modules.map (·.importName))
  let resolved ← (order modules config).mapM (describe modules envs)
  return ⟨serviceId, resolved, config.fallback⟩

/-- The facade: the last module. -/
def facade? (d : ServiceDescriptor) : Option ModuleDescriptor := d.modules.getLast?

/-- The import name of the facade. -/
def facadeName? (d : ServiceDescriptor) : Option String := d.facade?.map (·.importName)

end ServiceDescriptor

end ModuleHost
