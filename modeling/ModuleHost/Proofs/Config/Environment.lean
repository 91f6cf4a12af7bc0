import ModuleHost.Proofs.Config.Resolution

/-!
# The variables of resolved modules

A variable of a module has the value of the first layer that sets it: the module's own settings,
the host's variables, the default filter.

* `ServiceConfig.own` — the settings that a module brings itself;
* `layered`, `ModuleConfig.get?_resolveEnvs` — the value that the layers give a variable;
* `ModuleConfig.resolveEnvs_resolveEnvs` — merging the layers again changes nothing;
* `ServiceDescriptor.config_of_resolve` — a resolved module has its own settings, merged;
* `ServiceDescriptor.resolve_again` — a service resolves to itself under its own settings;
* **`ServiceDescriptor.environment_of_resolve`**: the variables of resolved modules are layered,
  and nothing else of their settings changes.
-/

namespace ModuleHost

/-- The settings that a module brings itself: those of its entry, else those for modules without
one. -/
def ServiceConfig.own (config : ServiceConfig) (module : String) : ModuleConfig :=
  match config.modules.find? (·.importName = module) with
  | some e => e.config
  | none => config.fallback.getD {}

/-- The value that the layers give a variable, the first that sets it winning. -/
def layered (own : Envs) (host : Option Envs) (name : String) : Option String :=
  (own.get? name).or
    ((host.bind (·.get? name)).or (if name = "WASM_LOG" then some "off" else none))

namespace ModuleConfig

theorem get?_resolveEnvs (c : ModuleConfig) (host : Option Envs) (name : String) :
    (c.resolveEnvs host).wasi.envs.get? name = layered c.wasi.envs host name := by
  have hbase : ((Dict.empty : Envs).insert logVariable defaultLog).get? name =
      if name = "WASM_LOG" then some "off" else none := by
    rw [Dict.get?_insert]
    rfl
  rw [resolveEnvs, Dict.get?_merge, Dict.get?_merge, hbase, layered]
  cases host <;> rfl

theorem resolveEnvs_eq (c : ModuleConfig) (host : Option Envs) :
    c.resolveEnvs host =
      { c with wasi := { c.wasi with envs := (c.resolveEnvs host).wasi.envs } } :=
  rfl

/-- Merging the layers again changes nothing. -/
theorem resolveEnvs_resolveEnvs (c : ModuleConfig) (host : Option Envs) :
    (c.resolveEnvs host).resolveEnvs host = c.resolveEnvs host := by
  have henvs : ((c.resolveEnvs host).resolveEnvs host).wasi.envs =
      (c.resolveEnvs host).wasi.envs := by
    apply Dict.ext_get?
    intro name
    rw [get?_resolveEnvs, layered, get?_resolveEnvs, layered, Option.or_assoc, Option.or_self]
  rw [resolveEnvs_eq, henvs]

end ModuleConfig

namespace ServiceDescriptor

/-- The variables of a module are layered, and its other settings are those that it brings. -/
structure Layered (config : ServiceConfig) (host : Option Envs) (m : ModuleDescriptor) : Prop where
  values : ∀ name, m.config.wasi.envs.get? name =
    layered (config.own m.importName).wasi.envs host name
  others : m.config = { config.own m.importName with
    wasi := { (config.own m.importName).wasi with envs := m.config.wasi.envs } }

section

variable {serviceId : String} {modules : ModuleSet} {config : Option ServiceConfig}
  {host : Option Envs} {d : ServiceDescriptor}

theorem config_of_resolve (h : resolve serviceId modules config host = .ok d)
    {m : ModuleDescriptor} (hm : m ∈ d.modules) :
    m.config = ((config.getD {}).own m.importName).resolveEnvs host := by
  have arranged := arranged_of_resolve h
  rw [ServiceConfig.own]
  cases hfind : (config.getD {}).modules.find? (·.importName = m.importName) with
  | some e =>
    have hname : e.importName = m.importName := by simpa using List.find?_some hfind
    exact arranged.configured m hm e (List.mem_of_find?_eq_some hfind) hname
  | none =>
    refine arranged.unconfigured m hm fun hentry => ?_
    obtain ⟨e, he, hname⟩ := List.mem_map.1 hentry
    simpa [hname] using List.find?_eq_none.1 hfind e he

/-- The settings of a resolved service as a configuration. -/
def resolvedConfig (d : ServiceDescriptor) (fallback : Option ModuleConfig) : ServiceConfig :=
  ⟨d.modules.map fun m => ⟨m.importName, m.config⟩, fallback⟩

/-- All modules have entries then, so that they stay in order. -/
theorem order_resolvedConfig (h : resolve serviceId modules config host = .ok d)
    (fallback : Option ModuleConfig) :
    order modules (d.resolvedConfig fallback) =
      d.modules.map fun m => (m.importName, m.config) := by
  have arranged := arranged_of_resolve h
  have hnone : (modules.map (·.1)).filter (fun name =>
      !((d.resolvedConfig fallback).modules.map (·.importName)).contains name) = [] := by
    refine List.filter_eq_nil_iff.2 fun name hname => ?_
    obtain ⟨supplied, hsupplied, rfl⟩ := List.mem_map.1 hname
    obtain ⟨m, hm, rfl⟩ := List.mem_map.1 (arranged.supplied.mem_iff.2 hsupplied)
    simpa [resolvedConfig] using ⟨m, hm, rfl⟩
  rw [order, hnone]
  simp [resolvedConfig, Function.comp_def]

/-- **A service resolves to itself under its own settings.** -/
theorem resolve_again (h : resolve serviceId modules config host = .ok d)
    (fallback : Option ModuleConfig) :
    resolve serviceId modules (some (d.resolvedConfig fallback)) host =
      .ok { d with fallback := fallback } := by
  have arranged := arranged_of_resolve h
  obtain ⟨sound, hid, -, hds⟩ := resolve_ok_iff.1 h
  have hsupplied : ∀ m ∈ d.modules, (m.importName, m.bytes) ∈ modules := fun m hm =>
    arranged.supplied.mem_iff.1 (List.mem_map.2 ⟨m, hm, rfl⟩)
  have hnames : (d.resolvedConfig fallback).modules.map (·.importName) =
      d.modules.map (·.importName) := by
    simp [resolvedConfig]
  have sound' : Resolvable modules (d.resolvedConfig fallback) := {
    nonempty := sound.nonempty
    named := sound.named
    distinct := sound.distinct
    entriesNamed := by
      intro e he
      obtain ⟨m, hm, rfl⟩ := List.mem_map.1 he
      exact sound.named _ (hsupplied m hm)
    entriesDistinct := hnames ▸ arranged.once
    supplied := by
      intro e he
      obtain ⟨m, hm, rfl⟩ := List.mem_map.1 he
      exact List.mem_map.2 ⟨_, hsupplied m hm, rfl⟩ }
  refine resolve_ok_iff.2 ⟨sound', hid, rfl, ?_⟩
  rw [Option.getD_some, order_resolvedConfig h, Described, List.forall₂_map_left_iff,
    List.forall₂_same]
  intro m hm
  refine describe_ok.2 ⟨rfl, (lookup_eq_some_iff sound.distinct).2 (hsupplied m hm), ?_⟩
  rw [config_of_resolve h hm, ModuleConfig.resolveEnvs_resolveEnvs]

/-- **The variables of resolved modules are layered** and nothing else of their settings changes;
what other modules bring does not matter, and resolving again changes nothing. -/
theorem environment_of_resolve (h : resolve serviceId modules config host = .ok d) :
    (∀ m ∈ d.modules, Layered (config.getD {}) host m) ∧
    (∀ serviceId' modules' config' d', resolve serviceId' modules' config' host = .ok d' →
      ∀ m ∈ d.modules, ∀ m' ∈ d'.modules,
        (config'.getD {}).own m'.importName = (config.getD {}).own m.importName →
          m'.config = m.config) ∧
    ∀ fallback, resolve serviceId modules (some (d.resolvedConfig fallback)) host =
      .ok { d with fallback := fallback } := by
  refine ⟨fun m hm => ⟨fun name => ?_, ?_⟩, ?_, resolve_again h⟩
  · rw [config_of_resolve h hm, ModuleConfig.get?_resolveEnvs]
  · rw [config_of_resolve h hm]
    exact ModuleConfig.resolveEnvs_eq _ host
  · intro serviceId' modules' config' d' h' m hm m' hm' hown
    rw [config_of_resolve h hm, config_of_resolve h' hm', hown]

end

/-- Variables of a host. -/
def hostVariables : Envs := Dict.ofList [("WASM_LOG", "info"), ("HOME", "/tmp")]

/-- The settings of two modules, one of which sets its filter itself. -/
def filtered : ServiceConfig :=
  ⟨[⟨"b", ({} : ModuleConfig).withEnv "WASM_LOG" "debug"⟩], some { loggerEnabled := false }⟩

/-- A service of three modules, resolved. -/
def layeredService : ServiceDescriptor :=
  let plain : ModuleConfig :=
    ModuleConfig.resolveEnvs { loggerEnabled := false } (some hostVariables)
  let own : ModuleConfig :=
    (({} : ModuleConfig).withEnv "WASM_LOG" "debug").resolveEnvs (some hostVariables)
  ⟨"s", [⟨"a", .owned [1], plain⟩, ⟨"c", .owned [3], plain⟩, ⟨"b", .owned [2], own⟩],
    some { loggerEnabled := false }⟩

theorem environment_of_resolve_layeredService :
    resolve "s" [("a", .owned [1]), ("b", .owned [2]), ("c", .owned [3])] (some filtered)
        (some hostVariables) = .ok layeredService ∧
      (∀ m ∈ layeredService.modules, Layered filtered (some hostVariables) m) ∧
      layeredService.modules.map (·.config.wasmLog) = ["info", "info", "debug"] ∧
      resolve "s" [("a", .owned [1]), ("b", .owned [2]), ("c", .owned [3])]
        (some (layeredService.resolvedConfig none)) (some hostVariables) =
          .ok { layeredService with fallback := none } := by
  have h : resolve "s" [("a", .owned [1]), ("b", .owned [2]), ("c", .owned [3])] (some filtered)
      (some hostVariables) = .ok layeredService := by
    decide +kernel
  obtain ⟨values, -, again⟩ := environment_of_resolve h
  exact ⟨h, values, by decide +kernel, again none⟩

end ServiceDescriptor

end ModuleHost
