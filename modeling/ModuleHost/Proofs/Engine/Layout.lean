import ModuleHost.Proofs.Engine.Hosting
import ModuleHost.Proofs.Engine.Stacking

/-!
# Which module logs under which settings

A service has the control module at the first place and then its modules in order. A module can
call only the function that logs under its own settings.

* `Laid` — loggers, instances and functions are those of the modules instantiated so far;
* **`Laid.allocate`**: the next module gets the next place and logs for itself;
* `Composed.laid` — so a service is laid out at every stage of its registration;
* `Service.LaidOut`, **`Service.built_laidOut`** — and when it is registered.
-/

namespace ModuleHost

open Wasm (Store Run Instance Extern Regime Module FunctionInstance)
open Registering

/-- A store holds the control module and the modules `done`, instantiated in that order. -/
structure Laid (serviceId : String) (done : List ModuleDescriptor) (s : Store guests)
    (modules : RegisteredModules) : Prop where
  owner : s.data.serviceId = serviceId
  loggers : s.data.loggers = done.map (·.logger serviceId)
  count : s.instances.length = done.length + 1
  /-- An instance has no other function that logs than that of the module at its place. -/
  owned : ∀ (home : Nat) inst place type position, s.instances[home]? = some inst →
    place ∈ inst.functions → s.functions[place]? = some (.host type (.log position)) →
      home = position + 1
  places : ∀ name m, modules.get? name = some m →
    ∃ position d, done[position]? = some d ∧ d.importName = name ∧ m.place = position + 1

/-- Of the functions that a module can import, only one logs. -/
theorem log_of_importable {position position' : Nat} {imports : List Wasm.Import}
    {f : (String × String) × HostFunction} (h : f ∈ importable position imports)
    (hlog : f.2 = .log position') : position' = position := by
  rcases List.mem_append.1 h with h | h
  · rcases List.mem_cons.1 h with rfl | h
    · cases hlog
      rfl
    · cases List.mem_singleton.1 h
      cases hlog
  · obtain ⟨i, -, rfl⟩ := List.mem_map.1 h
    cases hlog

namespace Laid

variable {serviceId : String} {done : List ModuleDescriptor} {s s' : Store guests}
  {earlier : RegisteredModules}

/-- Calls leave a store laid out. -/
theorem evolve (h : Laid serviceId done s earlier) (hs : Evolves s s') :
    Laid serviceId done s' earlier where
  owner := hs.serviceId.trans h.owner
  loggers := hs.loggers.trans h.loggers
  count := by rw [hs.instances, h.count]
  owned := by
    rw [hs.instances, hs.functions]
    exact h.owned
  places := h.places

/-- **The next module gets the next place and logs for itself.** -/
theorem allocate (h : Laid serviceId done s earlier) (there : Inhabited s) (stacked : Stacked s)
    (d : ModuleDescriptor) {m : Module} {parts : List Extern}
    (hlink : m.link? (offering s (d.logger serviceId) (importable done.length m.imports))
      (resolveImport (s.instances.getD 0 {}) (offered s (importable done.length m.imports))) =
        some parts) :
    Laid serviceId (done ++ [d])
      (m.allocate parts (offering s (d.logger serviceId) (importable done.length m.imports)))
      earlier := by
  constructor
  case owner => exact h.owner
  case loggers =>
    show s.data.loggers ++ [d.logger serviceId] = _
    rw [h.loggers, List.map_append, List.map_singleton]
  case count =>
    show (s.instances ++ [m.newInstance _ parts]).length = _
    rw [List.length_append, List.length_append, h.count]
    rfl
  case owned =>
    intro home inst place type position hinst hplace hlog
    cases function_of_allocate hlink stacked there hinst hplace hlog with
    | old hold held => exact h.owned home inst place type position hold hplace held
    | offered last hmem => rw [last, h.count, log_of_importable hmem rfl]
    | control _ has held =>
      -- the control module has nothing that logs
      exact absurd (h.owned 0 _ place type position stacked.first has held) (by omega)
  case places =>
    intro name m' hm'
    obtain ⟨position, d', hd', hrest⟩ := h.places name m' hm'
    refine ⟨position, d', ?_, hrest⟩
    rw [List.getElem?_append_left (List.getElem?_eq_some_iff.1 hd').1, hd']

/-- The instance of the last module is entered. -/
theorem enter {d : ModuleDescriptor} (h : Laid serviceId (done ++ [d]) s earlier)
    {entry : RegisteredModule} (place : entry.place = done.length + 1) :
    Laid serviceId (done ++ [d]) (entered s d.importName entry.place)
      (earlier.insert d.importName entry) where
  owner := h.owner
  loggers := h.loggers
  count := h.count
  owned := h.owned
  places name m hm := by
    rw [Dict.get?_insert] at hm
    split at hm
    · next hname =>
      cases hm
      exact ⟨done.length, d, List.getElem?_concat_length, hname.symm, place⟩
    · exact h.places name m hm

end Laid

/-! ## Services -/

/-- The control module is the first instance and logs nothing. -/
theorem laid_control (control : Module) (d : ServiceDescriptor) (sink : Sink) :
    Laid d.serviceId [] (control.allocate [] (Service.freshStore d sink)) Dict.empty where
  owner := rfl
  loggers := rfl
  count := rfl
  owned home inst place type position hinst hplace hlog := by
    -- every function is one that the control module defines
    obtain ⟨_, _, _, hguest⟩ := Module.guest_of_new (Nat.not_lt_zero place) hlog
    cases hguest
  places name m hm := nomatch hm

/-- **At every stage of its registration a service is laid out.** -/
theorem Composed.laid {regime : Regime} {control : Module} {d : ServiceDescriptor} {sink : Sink}
    {done : List ModuleDescriptor} {s : Store guests} {earlier : RegisteredModules}
    (h : Composed regime control d sink done s earlier) (whole : control.Whole) :
    Laid d.serviceId done s earlier := by
  induction h with
  | control ready =>
    have wired : Wired (control.allocate [] (Service.freshStore d sink)) :=
      Wired.allocate (fun _ _ ⟨_, held⟩ => nomatch held) control []
    exact (laid_control control d sink).evolve (wired.evolves_of_instantiate ready)
  | @module done s s' earlier md entry before added ih =>
    obtain ⟨there, stacked⟩ := before.stacked whole
    obtain ⟨m, s₂, parts, a, hdecode, -, hchecks, -, hlink, hinstantiate, -, rfl⟩ :=
      addModule_gives.1 added
    have hposition : s.data.loggers.length = done.length := by rw [ih.loggers, List.length_map]
    rw [hposition] at hlink hinstantiate
    have evolves := before.sound.evolves_of_instantiate hchecks hinstantiate
    have hplace : entry.place = done.length + 1 :=
      (Wasm.instantiate_value hinstantiate).trans ih.count
    exact ((ih.allocate there stacked md hlink).evolve evolves).enter hplace

/-- A service is laid out as its descriptor tells. -/
def Service.LaidOut (d : ServiceDescriptor) (service : Service) : Prop :=
  Laid d.serviceId d.modules service.store service.modules

/-- **A service that is registered is laid out.** -/
theorem Service.built_laidOut : Built LaidOut := by
  intro regime control d sink service whole h
  obtain ⟨stage, hstore⟩ := stage_of_build h
  have evolves : Evolves _ service.store := hstore ▸ Evolves.settled (.refl _)
  exact (stage.laid whole).evolve evolves

end ModuleHost
