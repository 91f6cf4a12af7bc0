import ModuleHost.Config.Basic
import ModuleHost.Proofs.Json.Record

/-!
# Configurations as text

* `PathSet.ofList_paths` — the paths of a set, entered in their order, are that set;
* `WasiConfig.fields`, `ModuleConfig.fields`, `ModuleEntry.fields`, `ServiceConfig.fields` — the
  members as fields; `WasiConfig.format` and so on — the JSON that stands for the settings;
* `ServiceConfig.stands_toJson` — the text of a configuration is one of the texts for it;
* **`ServiceConfig.parse_rearranged`**: the text of a configuration is read back, also with its
  members in another order, without members that have their defaults and with others, at any level.
-/

namespace ModuleHost

open Json (Describes Format Lawful RecordField)

/-! ## Path sets -/

namespace PathSet

theorem enter_of_lt {p : String} {qs : List String} (h : ∀ q ∈ qs, Path.order q p = .lt) :
    enter p qs = qs ++ [p] := by
  induction qs with
  | nil => rfl
  | cons q qs ih =>
    have hq : Path.order p q = .gt := Std.OrientedCmp.gt_of_lt (h q List.mem_cons_self)
    rw [enter, hq]
    exact congrArg _ (ih fun q hq => h q (List.mem_cons_of_mem _ hq))

theorem ofList_paths (s : PathSet) : ofList s.paths = s := by
  obtain ⟨paths, sorted⟩ := s
  suffices h : (ofList paths).paths = paths by
    generalize ofList paths = t at h
    obtain ⟨paths', sorted'⟩ := t
    cases h
    rfl
  induction paths using List.reverseRecOn with
  | nil => rfl
  | append_singleton paths p ih =>
    obtain ⟨hpaths, -, hlast⟩ := List.pairwise_append.1 sorted
    have hp : (ofList (paths ++ [p])).paths = enter p (ofList paths).paths := by
      rw [ofList, List.foldl_append]
      rfl
    rw [hp, ih hpaths]
    exact enter_of_lt fun q hq => hlast q hq p (List.mem_singleton.2 rfl)

end PathSet

/-! ## System settings -/

namespace WasiConfig

/-- The fields of system settings. -/
def fields : List (RecordField WasiConfig) :=
  [⟨"envs", false, .strings, WasiConfig.envs, fun w d => { w with envs := d }, fun _ _ => rfl⟩,
   ⟨"preopened_files", false, .list .string, fun w => w.preopenedFiles.paths,
     fun w ps => { w with preopenedFiles := PathSet.ofList ps },
     fun _ w => congrArg PathSet.paths w.preopenedFiles.ofList_paths⟩,
   ⟨"mapped_dirs", false, .strings, WasiConfig.mappedDirs, fun w d => { w with mappedDirs := d },
     fun _ _ => rfl⟩]

theorem lawful_fields : Lawful fields where
  distinct := by decide
  apart := by simp [fields, RecordField.Apart]
  ext a b h := by
    simp only [fields, List.forall_mem_cons] at h
    obtain ⟨henvs, hpaths, hdirs, -⟩ := h
    have hfiles : a.preopenedFiles = b.preopenedFiles := by
      rw [← a.preopenedFiles.ofList_paths, hpaths, PathSet.ofList_paths]
    cases a
    cases b
    simp_all

/-- The format of system settings. -/
def format : Format WasiConfig := .record fields lawful_fields {}

theorem stands_strings (d : Dict String String) : Format.strings.Stands (stringsToJson d) d :=
  ⟨d.fields, rfl, .refl _⟩

theorem stands_toJson (w : WasiConfig) : format.Stands w.toJson w :=
  ⟨_, rfl, .of_forall₂ lawful_fields (.cons ⟨rfl, stands_strings w.envs⟩
    (.cons ⟨rfl, Format.stands_list (fun _ => rfl) w.preopenedFiles.paths⟩
    (.cons ⟨rfl, stands_strings w.mappedDirs⟩ .nil)))⟩

end WasiConfig

/-! ## Module settings -/

namespace ModuleConfig

/-- The fields of a module's settings. -/
def fields : List (RecordField ModuleConfig) :=
  [⟨"logger_enabled", false, .truth, ModuleConfig.loggerEnabled,
     fun c b => { c with loggerEnabled := b }, fun _ _ => rfl⟩,
   ⟨"logging_mask", false, .int64, fun c => c.loggingMask.bits,
     fun c n => { c with loggingMask := ⟨n⟩ }, fun _ _ => rfl⟩,
   ⟨"wasi", false, WasiConfig.format, ModuleConfig.wasi, fun c w => { c with wasi := w },
     fun _ _ => rfl⟩]

theorem lawful_fields : Lawful fields where
  distinct := by decide
  apart := by simp [fields, RecordField.Apart]
  ext a b h := by
    simp only [fields, List.forall_mem_cons] at h
    obtain ⟨henabled, hmask, hwasi, -⟩ := h
    obtain ⟨_, ⟨_⟩, _⟩ := a
    obtain ⟨_, ⟨_⟩, _⟩ := b
    simp_all

/-- The format of a module's settings. -/
def format : Format ModuleConfig := .record fields lawful_fields {}

theorem stands_toJson (c : ModuleConfig) : format.Stands c.toJson c :=
  ⟨_, rfl, .of_forall₂ lawful_fields (.cons ⟨rfl, rfl⟩ (.cons ⟨rfl, rfl⟩
    (.cons ⟨rfl, c.wasi.stands_toJson⟩ .nil)))⟩

theorem not_stands_null (c : ModuleConfig) : ¬format.Stands .null c := by
  rintro ⟨_, h, -⟩
  cases h

end ModuleConfig

/-! ## Entries -/

namespace ModuleEntry

/-- The fields of an entry. -/
def fields : List (RecordField ModuleEntry) :=
  [⟨"import_name", true, .string, ModuleEntry.importName, fun e s => { e with importName := s },
     fun _ _ => rfl⟩,
   ⟨"config", false, ModuleConfig.format, ModuleEntry.config, fun e c => { e with config := c },
     fun _ _ => rfl⟩]

theorem lawful_fields : Lawful fields where
  distinct := by decide
  apart := by simp [fields, RecordField.Apart]
  ext a b h := by
    simp only [fields, List.forall_mem_cons] at h
    cases a
    cases b
    simp_all

/-- The format of entries. -/
def format : Format ModuleEntry := .record fields lawful_fields { importName := "" }

theorem stands_toJson (e : ModuleEntry) : format.Stands e.toJson e :=
  ⟨_, rfl, .of_forall₂ lawful_fields (.cons ⟨rfl, rfl⟩
    (.cons ⟨rfl, e.config.stands_toJson⟩ .nil))⟩

end ModuleEntry

/-! ## Configurations -/

namespace ServiceConfig

/-- The fields of a configuration. -/
def fields : List (RecordField ServiceConfig) :=
  [⟨"modules_config", false, .list ModuleEntry.format, ServiceConfig.modules,
     fun c ms => { c with modules := ms }, fun _ _ => rfl⟩,
   ⟨"default_modules_config", false, .nullable ModuleConfig.format ModuleConfig.not_stands_null,
     ServiceConfig.fallback, fun c d => { c with fallback := d }, fun _ _ => rfl⟩]

theorem lawful_fields : Lawful fields where
  distinct := by decide
  apart := by simp [fields, RecordField.Apart]
  ext a b h := by
    simp only [fields, List.forall_mem_cons] at h
    cases a
    cases b
    simp_all

/-- The format of configurations. -/
def format : Format ServiceConfig := .record fields lawful_fields {}

theorem stands_toJson (c : ServiceConfig) : format.Stands c.toJson c := by
  refine ⟨_, rfl, .of_forall₂ lawful_fields
    (.cons ⟨rfl, Format.stands_list ModuleEntry.stands_toJson c.modules⟩ (.cons ⟨rfl, ?_⟩ .nil))⟩
  obtain ⟨modules, _ | d⟩ := c
  · rfl
  · exact d.stands_toJson

theorem parse_of_stands {c : ServiceConfig} {j : Json} (h : format.Stands j c) :
    parse j.compact = .ok c := by
  -- the members that the reader of the format sees are those of a configuration
  have hread : (Json.Reader.record members {}).whole (Text.ofString j.compact) = .ok c :=
    format.whole_compact h
  rw [parse, hread]

/-- **A configuration is read back from its text**, and from every text that holds its members in
any order, may leave out those that have their defaults, and may hold others, at every level. -/
theorem parse_rearranged :
    (∀ c : ServiceConfig, parse c.text = .ok c) ∧
    ∀ (c : ServiceConfig) (es : List (String × Json)), Describes fields {} c es →
      parse (Json.fields es).compact = .ok c :=
  ⟨fun c => parse_of_stands c.stands_toJson, fun _ es h => parse_of_stands ⟨es, rfl, h⟩⟩

/-- Settings with environment variables and files. -/
def variedWasi : WasiConfig :=
  { envs := Dict.ofList [("A", "1"), ("WASM_LOG", "info")]
    preopenedFiles := PathSet.ofList ["c", "/a//b"] }

/-- Settings with the least mask. -/
def variedSettings : ModuleConfig :=
  { loggerEnabled := false, loggingMask := ⟨-0x8000000000000000⟩, wasi := variedWasi }

/-- A configuration with an entry of default settings and no fallback. -/
def varied : ServiceConfig :=
  { modules := [{ importName := "m" }, { importName := "f", config := variedSettings }] }

/-- A member that no settings have. -/
def note : String × Json :=
  ("note", .array [.number (.float ⟨0x3FF8000000000000⟩ (by decide)), .fields [("wasi", .null)]])

/-- Files before variables, which are out of order, and no directories. -/
def variedWasiMembers : List (String × Json) :=
  [("preopened_files", .strings variedWasi.preopenedFiles.paths),
    ("envs", .fields [("WASM_LOG", .string "info"), ("A", .string "1")])]

/-- The members of the settings in reverse order, and a note. -/
def variedSettingsMembers : List (String × Json) :=
  [("wasi", .fields variedWasiMembers), ("logging_mask", .int (-0x8000000000000000)),
    ("logger_enabled", .bool false), note]

/-- The entries with a note each, the first without settings. -/
def variedEntries : List Json :=
  [.fields [note, ("import_name", .string "m")],
    .fields [note, ("import_name", .string "f"), ("config", .fields variedSettingsMembers)]]

theorem describes_variedWasi : Describes WasiConfig.fields {} variedWasi variedWasiMembers := by
  have henvs : Format.strings.Stands
      (.fields [("WASM_LOG", .string "info"), ("A", .string "1")]) variedWasi.envs :=
    ⟨[("WASM_LOG", "info"), ("A", "1")], rfl, .swap _ _ _⟩
  have hall : Describes WasiConfig.fields {} variedWasi
      [("envs", .fields [("WASM_LOG", .string "info"), ("A", .string "1")]),
        ("preopened_files", .strings variedWasi.preopenedFiles.paths),
        ("mapped_dirs", stringsToJson Dict.empty)] :=
    .of_forall₂ WasiConfig.lawful_fields (.cons ⟨rfl, henvs⟩
      (.cons ⟨rfl, Format.stands_list (fun _ => rfl) _⟩
      (.cons ⟨rfl, WasiConfig.stands_strings _⟩ .nil)))
  have hgiven : Describes WasiConfig.fields {} variedWasi variedWasiMembers.reverse :=
    hall.filter (fun k => k ≠ "mapped_dirs") (by simp [WasiConfig.fields, variedWasi])
  exact hgiven.perm (List.reverse_perm _).symm

theorem describes_variedSettings :
    Describes ModuleConfig.fields {} variedSettings variedSettingsMembers := by
  have hall : Describes ModuleConfig.fields {} variedSettings
      [("logger_enabled", .bool false), ("logging_mask", .int (-0x8000000000000000)),
        ("wasi", .fields variedWasiMembers)] :=
    .of_forall₂ ModuleConfig.lawful_fields (.cons ⟨rfl, rfl⟩ (.cons ⟨rfl, rfl⟩
      (.cons ⟨rfl, _, rfl, describes_variedWasi⟩ .nil)))
  have hnote : Describes ModuleConfig.fields {} variedSettings variedSettingsMembers.reverse :=
    hall.cons_other (by simp [ModuleConfig.fields, note])
  exact hnote.perm (List.reverse_perm _).symm

theorem stands_variedEntries :
    (Format.list ModuleEntry.format).Stands (.array variedEntries) varied.modules := by
  have hnote : ∀ f ∈ ModuleEntry.fields, f.name ≠ note.1 := by simp [ModuleEntry.fields, note]
  have hfirst : Describes ModuleEntry.fields { importName := "" } { importName := "m" }
      [("import_name", .string "m")] := by
    obtain ⟨es, hes, h⟩ := ModuleEntry.stands_toJson { importName := "m" }
    cases hes
    exact h.filter (fun k => k = "import_name") (by simp [ModuleEntry.fields])
  have hlast : Describes ModuleEntry.fields { importName := "" }
      { importName := "f", config := variedSettings }
      [("import_name", .string "f"), ("config", .fields variedSettingsMembers)] :=
    .of_forall₂ ModuleEntry.lawful_fields (.cons ⟨rfl, rfl⟩
      (.cons ⟨rfl, _, rfl, describes_variedSettings⟩ .nil))
  exact ⟨_, rfl, .cons ⟨_, rfl, hfirst.cons_other hnote⟩
    (.cons ⟨_, rfl, hlast.cons_other hnote⟩ .nil)⟩

theorem parse_rearranged_varied :
    let es := [note, ("modules_config", .array variedEntries)]
    Describes fields {} varied es ∧ parse (Json.fields es).compact = .ok varied ∧
      parse varied.text = .ok varied := by
  intro es
  have hall : Describes fields {} varied
      [("modules_config", .array variedEntries), ("default_modules_config", .null)] :=
    .of_forall₂ lawful_fields (.cons ⟨rfl, stands_variedEntries⟩ (.cons ⟨rfl, rfl⟩ .nil))
  have hgiven : Describes fields {} varied [("modules_config", .array variedEntries)] :=
    hall.filter (fun k => k = "modules_config") (by simp [fields, varied])
  have h : Describes fields {} varied es := hgiven.cons_other (by simp [fields, note])
  exact ⟨h, parse_rearranged.2 varied es h, parse_rearranged.1 varied⟩

end ServiceConfig

end ModuleHost
