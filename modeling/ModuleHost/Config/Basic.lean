import ModuleHost.Config.Path
import ModuleHost.Dict
import ModuleHost.Json.Printer
import ModuleHost.Json.Typed
import ModuleHost.Log.Filter

/-!
# Service configuration

* `WasiConfig`, `ModuleConfig` — the settings of one module;
* `ModuleEntry`, `ServiceConfig` — the settings of the modules of a service, the last entry being
  the facade's;
* `ServiceConfig.toJson`, `ServiceConfig.parse` — a configuration as text and back;
* `ConfigError` — why a configuration is refused.
-/

namespace ModuleHost

open Json (Reader Member)

/-- Environment variables. -/
abbrev Envs := Dict String String

/-- The settings of a module that a runtime with system access would use. -/
structure WasiConfig where
  /-- Environment variables visible to the module. -/
  envs : Envs := Dict.empty
  /-- Files the module may open. -/
  preopenedFiles : PathSet := PathSet.empty
  /-- Guest aliases of host paths. -/
  mappedDirs : Dict String String := Dict.empty
  deriving DecidableEq

/-- The settings of a module. -/
structure ModuleConfig where
  /-- Whether guest log calls are forwarded at all. -/
  loggerEnabled : Bool := true
  /-- The levels that are forwarded. -/
  loggingMask : LogMask := LogMask.all
  wasi : WasiConfig := {}
  deriving DecidableEq

/-- The settings entered for a module of a service. -/
structure ModuleEntry where
  importName : String
  config : ModuleConfig := {}
  deriving DecidableEq

/-- The configuration of a service, as its caller gives it. -/
structure ServiceConfig where
  /-- Settings in module order; the last entry is the facade's. -/
  modules : List ModuleEntry := []
  /-- Settings for modules without an entry. -/
  fallback : Option ModuleConfig := none
  deriving DecidableEq

/-- Why a service is refused before registration. -/
inductive ConfigError where
  | noModules (service : String)
  | duplicateModule (module : String)
  | missingBytes (module : String)
  | emptyImportName
  | read (path : String) (reason : String)
  | parse (cause : Json.ReadError)
  deriving DecidableEq, Repr

/-- The text of an error, with `json` for the cause of an unreadable configuration. -/
def ConfigError.messageWith (json : Json.ReadError → String) : ConfigError → String
  | .noModules service => s!"service `{service}` has no modules"
  | .duplicateModule module => s!"module `{module}` is listed more than once"
  | .missingBytes module =>
    s!"module `{module}` is configured but no wasm bytes were supplied for it"
  | .emptyImportName => "module import name must not be empty"
  | .read path reason => s!"failed to read config {path}: {reason}"
  | .parse cause => s!"failed to parse config: {json cause}"

/-- The text of an error. -/
def ConfigError.message (e : ConfigError) : String := e.messageWith Json.ReadError.tag

namespace ModuleConfig

/-- The filter text of a module without one. -/
def defaultLog : String := "off"

/-- The filter text of a module. -/
def wasmLog (c : ModuleConfig) : String := (c.wasi.envs.get? logVariable).getD defaultLog

/-- The settings with one more environment variable. -/
def withEnv (c : ModuleConfig) (name value : String) : ModuleConfig :=
  { c with wasi := { c.wasi with envs := c.wasi.envs.insert name value } }

/-- The settings with the environment that results from the layers: the default filter, the
host's variables, the module's own; later layers win. -/
def resolveEnvs (c : ModuleConfig) (host : Option Envs) : ModuleConfig :=
  let base : Envs := Dict.empty.insert logVariable defaultLog
  { c with
    wasi := { c.wasi with envs := (base.merge (host.getD Dict.empty)).merge c.wasi.envs } }

end ModuleConfig

/-! ## Writing -/

/-- The object of a dictionary of strings. -/
def stringsToJson (d : Dict String String) : Json :=
  .fields (d.fields.map fun e => (e.1, .string e.2))

/-- The object of system settings. -/
def WasiConfig.toJson (w : WasiConfig) : Json :=
  .fields [("envs", stringsToJson w.envs), ("preopened_files", .strings w.preopenedFiles.paths),
    ("mapped_dirs", stringsToJson w.mappedDirs)]

/-- The object of a module's settings. -/
def ModuleConfig.toJson (c : ModuleConfig) : Json :=
  .fields [("logger_enabled", .bool c.loggerEnabled), ("logging_mask", .int c.loggingMask.bits),
    ("wasi", c.wasi.toJson)]

/-- The object of an entry. -/
def ModuleEntry.toJson (e : ModuleEntry) : Json :=
  .fields [("import_name", .string e.importName), ("config", e.config.toJson)]

namespace ServiceConfig

/-- The object of a configuration. -/
def toJson (c : ServiceConfig) : Json :=
  .fields [("modules_config", .array (c.modules.map ModuleEntry.toJson)),
    ("default_modules_config", (c.fallback.map ModuleConfig.toJson).getD .null)]

/-- The text of a configuration. -/
def text (c : ServiceConfig) : String := c.toJson.compact

end ServiceConfig

/-! ## Reading -/

/-- The members of system settings. -/
def WasiConfig.members : List (Member WasiConfig) :=
  [.ofOptional "envs" (Reader.dict Reader.text) fun w d => { w with envs := d },
   .ofOptional "preopened_files" (Reader.list Reader.text) fun w ps =>
     { w with preopenedFiles := PathSet.ofList ps },
   .ofOptional "mapped_dirs" (Reader.dict Reader.text) fun w d => { w with mappedDirs := d }]

/-- The members of a module's settings. -/
def ModuleConfig.members : List (Member ModuleConfig) :=
  [.ofOptional "logger_enabled" Reader.truth fun c b => { c with loggerEnabled := b },
   .ofOptional "logging_mask" Reader.int64 fun c n => { c with loggingMask := ⟨n⟩ },
   .ofOptional "wasi" (Reader.record WasiConfig.members {}) fun c w => { c with wasi := w }]

/-- The reader of a module's settings. -/
def ModuleConfig.reader : Reader ModuleConfig := Reader.record ModuleConfig.members {}

/-- The members of an entry. -/
def ModuleEntry.members : List (Member ModuleEntry) :=
  [.ofRequired "import_name" Reader.text fun e s => { e with importName := s },
   .ofOptional "config" ModuleConfig.reader fun e c => { e with config := c }]

namespace ServiceConfig

/-- The members of a configuration. -/
def members : List (Member ServiceConfig) :=
  [.ofOptional "modules_config"
     (Reader.list (Reader.record ModuleEntry.members { importName := "" }))
     fun c ms => { c with modules := ms },
   .ofOptional "default_modules_config" (Reader.nullable ModuleConfig.reader)
     fun c d => { c with fallback := d }]

/-- The configuration of a text. -/
def parse (raw : String) : Except ConfigError ServiceConfig :=
  match (Reader.record members {}).whole (Text.ofString raw) with
  | .ok c => .ok c
  | .error cause => .error (.parse cause)

end ServiceConfig

end ModuleHost
