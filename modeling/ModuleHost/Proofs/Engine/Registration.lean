import ModuleHost.Proofs.Engine.Evolution
import ModuleHost.Proofs.Wasm.Parts

/-!
# Registered services

A registration instantiates one module after another. Every module that stays is in the table of
modules and in the directory for sibling calls, and it can be called.

* `Registering.Gives` — a step of a registration succeeds;
* **`addModule_gives`** — what the instantiation of a module does;
* **`Service.Sound.addModule`**: it leaves the tables in agreement;
* `Composed` — how far a registration has come; `Service.stage_of_build` — a service is its last
  stage;
* `Service.Fronts` — the facade of a service is that of its descriptor;
* **`Service.build_ok`**: a service that is registered is sound and has its facade;
* `InstanceRules`, `RegistrationRules` — what a property of stores has to admit besides calls of the
  service;
* **`RegistrationRules.keeps_registerModules`**: then registrations keep it, also those that fail;
* `loggers_registerModules` — the loggers that a registration leaves.
-/

namespace ModuleHost

open Wasm (Store Run Instance Extern ExternType Regime Module Ended)

/-! ## Steps that succeed -/

namespace Registering

variable {α β : Type} {s s' : Store guests} {a : α} {module : String}

theorem run_bind (x : Registering α) (f : α → Registering β) (s : Store guests) :
    (x >>= f).run s = match x.run s with
      | .value (.ok a) s₁ => (f a).run s₁
      | .value (.error cause) s₁ => .value (.error cause) s₁
      | .stop why s₁ => .stop why s₁ := by
  change (x.run >>= ExceptT.bindCont f) s = _
  rw [Run.bind_apply]
  cases x.run s with
  | stop => rfl
  | value result => cases result <;> rfl

/-- A step of a registration succeeds with a value and leaves the store `s'`. -/
def Gives (x : Registering α) (s : Store guests) (a : α) (s' : Store guests) : Prop :=
  x.run s = .value (.ok a) s'

theorem gives_bind {x : Registering α} {f : α → Registering β} {b : β} :
    Gives (x >>= f) s b s' ↔ ∃ a s₁, Gives x s a s₁ ∧ Gives (f a) s₁ b s' := by
  refine Wasm.Run.bind_eq_value.trans ⟨?_, ?_⟩
  · rintro ⟨result, s₁, hx, hf⟩
    cases result with
    | ok a => exact ⟨a, s₁, hx, hf⟩
    | error cause => cases hf
  · rintro ⟨a, s₁, hx, hf⟩
    exact ⟨.ok a, s₁, hx, hf⟩

theorem gives_pure {b : α} : Gives (pure b) s a s' ↔ a = b ∧ s' = s := by
  constructor
  · intro h
    cases h
    exact ⟨rfl, rfl⟩
  · rintro ⟨rfl, rfl⟩
    rfl

theorem gives_lift {x : Guest α} : Gives (liftM x) s a s' ↔ x s = .value a s' := by
  refine Wasm.Run.bind_eq_value.trans ⟨?_, fun h => ⟨a, s', h, rfl⟩⟩
  rintro ⟨_, _, hx, h⟩
  cases h
  exact hx

theorem gives_orRefuse {x : Except String α} :
    Gives (orRefuse module x) s a s' ↔ x = .ok a ∧ s' = s := by
  cases x with
  | error reason => exact ⟨(nomatch ·), (nomatch ·.1)⟩
  | ok b => exact gives_pure.trans (and_congr_left' ⟨fun h => h ▸ rfl, fun h => by cases h; rfl⟩)

theorem gives_orEngine {x : Option α} :
    Gives (orEngine module x) s a s' ↔ x = some a ∧ s' = s := by
  cases x with
  | none => exact ⟨(nomatch ·), (nomatch ·.1)⟩
  | some b => exact gives_pure.trans (and_congr_left' ⟨fun h => h ▸ rfl, fun h => by cases h; rfl⟩)

theorem gives_runOrRefuse {x : Guest α} :
    Gives (runOrRefuse module x) s a s' ↔ x s = .value a s' := by
  have hattempt : Gives (runOrRefuse module x) s a s' ↔ x.attempt s = .value (.ok a) s' := by
    refine gives_bind.trans ⟨?_, fun h => ⟨.ok a, s', gives_lift.2 h, rfl⟩⟩
    rintro ⟨result, s₁, hx, h⟩
    cases result with
    | ok b =>
      obtain ⟨rfl, rfl⟩ := gives_pure.1 h
      exact gives_lift.1 hx
    | error why => cases h
  rw [hattempt, Run.attempt]
  cases hx : x s with
  | value b s₁ => simp
  | stop why s₁ => cases why <;> simp

end Registering

open Registering

/-! ## One module -/

section

variable {regime : Regime} {control : Nat} {serviceId : String} {earlier : RegisteredModules}
  {d : ModuleDescriptor} {s s' : Store guests} {entry : RegisteredModule}

/-- The store with a logger and the functions that a module can import. -/
def offering (s : Store guests) (logger : Logger)
    (functions : List ((String × String) × HostFunction)) : Store guests :=
  { s with
    functions := s.functions ++ functions.map fun f => .host f.2.type f.2
    data := { s.data with loggers := s.data.loggers ++ [logger] } }

/-- The store with an instance entered for sibling calls. -/
def entered (s : Store guests) (module : String) (place : Nat) : Store guests :=
  { s with data := { s.data with directory := s.data.directory.insert module place } }

/-- The functions that a module can import, with the places that they get in a store. -/
def offered (s : Store guests) (functions : List ((String × String) × HostFunction)) :
    List ((String × String) × Nat) :=
  (functions.map (·.1)).zip (Wasm.newPlaces s.functions functions.length)

/-- The store with the logger of the next module. -/
def logging (s : Store guests) (logger : Logger) : Store guests :=
  { s with data := { s.data with loggers := s.data.loggers ++ [logger] } }

/-- Linking and instantiating a module, from the store with the functions that it can import. -/
theorem instantiateLinked_gives {logger : Logger} {name : String} {m : Module}
    {functions : List ((String × String) × HostFunction)} {place : Nat} :
    Gives (instantiateLinked regime control name m functions) (logging s logger) place s' ↔
      ∃ parts, m.link? (offering s logger functions)
          (resolveImport (s.instances.getD control {}) (offered s functions)) = some parts ∧
        m.instantiate hostFunctions regime parts (offering s logger functions) =
          .value place s' := by
  unfold instantiateLinked
  simp only [gives_bind, gives_lift, gives_orEngine, gives_runOrRefuse]
  constructor
  · rintro ⟨offered, _, hoffer, _, _, hstore, parts, _, ⟨hlink, rfl⟩, hinstantiate⟩
    cases hoffer
    cases hstore
    exact ⟨parts, hlink, hinstantiate⟩
  · rintro ⟨parts, hlink, hinstantiate⟩
    exact ⟨_, _, rfl, _, _, rfl, parts, _, ⟨hlink, rfl⟩, hinstantiate⟩

theorem mapError_eq_ok {ε ε' α : Type} {f : ε → ε'} {x : Except ε α} {a : α} :
    x.mapError f = .ok a ↔ x = .ok a := by
  cases x <;> simp [Except.mapError]

/-- **What the instantiation of a module does**, if it succeeds. -/
theorem addModule_gives : Gives (addModule regime control serviceId earlier d) s entry s' ↔
    ∃ (m : Module) (s₂ : Store guests) (parts : List Extern) (a : Allocator),
      let functions := importable s.data.loggers.length m.imports
      let s₁ := offering s (d.logger serviceId) functions
      Module.decode? d.bytes.bytes = some m ∧
      Interface.ofModule d.bytes.bytes = .ok entry.interface ∧
      checkImports (logging s (d.logger serviceId)) earlier m.imports = .ok () ∧
      (functions.map (·.1)).Nodup ∧
      m.link? s₁ (resolveImport (s.instances.getD control {}) (offered s functions)) =
        some parts ∧
      m.instantiate hostFunctions regime parts s₁ = .value entry.place s₂ ∧
      Allocator.ofInstance s₂ (s₂.instances.getD entry.place {}) = .ok a ∧
      s' = entered s₂ d.importName entry.place := by
  unfold addModule
  simp only [gives_bind, gives_lift, gives_orRefuse, gives_orEngine, gives_pure]
  constructor
  · rintro ⟨_, _, hstore, _, _, hlog, interface, _, ⟨hinterface, rfl⟩, m, _, ⟨hdecode, rfl⟩, _, _,
      hstore₁, _, _, ⟨hchecks, rfl⟩, _, _, ⟨hnodup, rfl⟩, place, s₂, hlinked, _, _, hstore₂, _, _,
      ⟨hallocator, rfl⟩, _, _, henter, rfl, rfl⟩
    cases hstore
    cases hlog
    cases hstore₁
    cases hstore₂
    cases henter
    obtain ⟨parts, hlink, hinstantiate⟩ := instantiateLinked_gives.1 hlinked
    obtain ⟨a, ha⟩ : ∃ a, Allocator.ofInstance s₂ (s₂.instances.getD place {}) = .ok a := by
      cases ha : Allocator.ofInstance s₂ (s₂.instances.getD place {}) with
      | ok a => exact ⟨a, rfl⟩
      | error fault =>
        rw [ha] at hallocator
        cases hallocator
    refine ⟨m, s₂, parts, a, hdecode, mapError_eq_ok.1 hinterface, hchecks, ?_, hlink,
      hinstantiate, ha, rfl⟩
    by_contra hrepeated
    rw [if_neg hrepeated] at hnodup
    cases hnodup
  · rintro ⟨m, s₂, parts, a, hdecode, hinterface, hchecks, hnodup, hlink, hinstantiate, ha, rfl⟩
    refine ⟨_, _, rfl, _, _, rfl, entry.interface, _, ⟨mapError_eq_ok.2 hinterface, rfl⟩, m, _,
      ⟨hdecode, rfl⟩, _, _, rfl, (), _, ⟨hchecks, rfl⟩, (), _, ⟨if_pos hnodup, rfl⟩, entry.place,
      s₂, instantiateLinked_gives.2 ⟨parts, hlink, hinstantiate⟩, _, _, rfl, (), _,
      ⟨?_, rfl⟩, _, _, rfl, rfl, rfl⟩
    rw [ha]
    rfl

/-! ## What registrations keep -/

theorem checkImport_ok {s₀ : Store guests} {i : Wasm.Import} :
    checkImport s₀ earlier i = .ok () ↔ (isSiblingImport i → ∃ sibling,
      earlier.get? i.module = some sibling ∧ checkSiblingImport s₀ sibling i = .ok ()) := by
  unfold checkImport
  split
  · next hsibling =>
    cases he : earlier.get? i.module with
    | none => simp [hsibling]
    | some sibling => simp [hsibling]
  · next hsibling => simp [hsibling]

theorem checkImports_ok {s₀ : Store guests} {imports : List Wasm.Import} :
    checkImports s₀ earlier imports = .ok () ↔ ∀ i ∈ imports, isSiblingImport i → ∃ sibling,
      earlier.get? i.module = some sibling ∧ checkSiblingImport s₀ sibling i = .ok () := by
  induction imports with
  | nil => simp [checkImports]
  | cons i is ih =>
    rw [List.forall_mem_cons, ← ih, ← checkImport_ok, checkImports]
    cases checkImport s₀ earlier i with
    | error reason => exact ⟨fun h => (nomatch h), fun h => (nomatch h.1)⟩
    | ok u => exact ⟨fun h => ⟨rfl, h⟩, And.right⟩

/-- An import from a sibling is accepted if it is a function and the sibling exports one of its
name that can be called. -/
theorem checkSiblingImport_ok {s₀ : Store guests} {sibling : RegisteredModule} {i : Wasm.Import} :
    checkSiblingImport s₀ sibling i = .ok () ↔ (∃ type, i.type = .func type) ∧
      ∃ target place, s₀.instances[sibling.place]? = some target ∧
        exportedFunction? target i.name = some place ∧ hasType s₀ place callableType := by
  unfold checkSiblingImport
  cases htype : i.type with
  | func type =>
    simp only [ExternType.func.injEq, exists_eq', true_and]
    cases hplace : (s₀.instances[sibling.place]?).bind (exportedFunction? · i.name) with
    | none =>
      refine ⟨fun h => (nomatch h), fun ⟨target, place, htarget, hexport, _⟩ => ?_⟩
      rw [htarget, Option.bind_some, hexport] at hplace
      cases hplace
    | some place =>
      obtain ⟨target, htarget, hexport⟩ := Option.bind_eq_some_iff.1 hplace
      simp only [htarget, Option.some.injEq, exists_and_left, exists_eq_left', hexport]
      split <;> simp_all
  | table | memory | global | tag => simp

theorem extends_offering (s : Store guests) (logger : Logger)
    (functions : List ((String × String) × HostFunction)) :
    Extends s (offering s logger functions) where
  functions := List.prefix_append _ _
  instances := List.prefix_rfl
  memories _ m hm := ⟨m, hm, .refl m⟩
  directory := rfl

theorem extends_allocate (m : Module) (parts : List Extern) (s : Store guests) :
    Extends s (m.allocate parts s) where
  functions := List.prefix_append _ _
  instances := List.prefix_append _ _
  memories _ memory hm :=
    ⟨memory, (List.getElem?_append_left (List.getElem?_eq_some_iff.1 hm).1).trans hm, .refl memory⟩
  directory := rfl

theorem extends_linked (s : Store guests) (logger : Logger)
    (functions : List ((String × String) × HostFunction)) (m : Module) (parts : List Extern) :
    Extends s (m.allocate parts (offering s logger functions)) :=
  (extends_offering s logger functions).trans (extends_allocate m parts _)

theorem Service.Sound.wired_offering (h : Service.Sound ⟨s, earlier⟩) {s₀ : Store guests}
    {imports : List Wasm.Import} (hchecks : checkImports s₀ earlier imports = .ok ())
    (logger : Logger) (position : Nat) :
    Wired (offering s logger (importable position imports)) := by
  rintro module function ⟨type, held⟩
  have hs := extends_offering s logger (importable position imports)
  rcases List.mem_append.1 held with held | held
  · obtain ⟨place, leads⟩ := h.wired module function ⟨type, held⟩
    exact ⟨place, leads.extend hs⟩
  · -- the function is offered for an import that was checked
    obtain ⟨⟨name, f⟩, hf, hfunction⟩ := List.mem_map.1 held
    cases hfunction
    obtain ⟨i, hi, hsibling, -, hmodule, -⟩ : ∃ i ∈ imports, isSiblingImport i ∧
        (i.module, i.name) = name ∧ i.module = module ∧ i.name = function := by
      simpa [importable, and_assoc] using hf
    obtain ⟨sibling, hget, -⟩ := checkImports_ok.1 hchecks i hi hsibling
    obtain ⟨inst, hinst, -⟩ := h.instances _ _ hget
    refine ⟨sibling.place, Leads.extend ⟨?_, inst, hinst⟩ hs⟩
    rw [← hmodule, h.directory, hget, Option.map_some]

/-- Guest code is no sibling call. -/
theorem Wired.allocate (h : Wired s) (m : Module) (parts : List Extern) :
    Wired (m.allocate parts s) := by
  rintro module function ⟨type, held⟩
  rcases List.mem_append.1 held with held | held
  · obtain ⟨place, leads⟩ := h module function ⟨type, held⟩
    exact ⟨place, leads.extend (extends_allocate m parts s)⟩
  · obtain ⟨_, -, hguest⟩ := List.mem_map.1 held
    cases hguest

/-- Guest code runs before an instance is ready: its start function may call siblings. -/
theorem Wired.evolves_of_instantiate {m : Module} {parts : List Extern} {place : Nat}
    (h : Wired (m.allocate parts s))
    (hinstantiate : m.instantiate hostFunctions regime parts s = .value place s') :
    Evolves (m.allocate parts s) s' := by
  have within := h.invariant.rules.within_instantiate regime (Answers.refl _)
  rw [hinstantiate] at within
  exact within.evolves

/-- Data and start function of the next module change the store as calls do. -/
theorem Service.Sound.evolves_of_instantiate (h : Service.Sound ⟨s, earlier⟩) {s₀ : Store guests}
    {m : Module} (hchecks : checkImports s₀ earlier m.imports = .ok ()) {logger : Logger}
    {position place : Nat} {parts : List Extern}
    (hinstantiate : m.instantiate hostFunctions regime parts
      (offering s logger (importable position m.imports)) = .value place s') :
    Evolves (m.allocate parts (offering s logger (importable position m.imports))) s' :=
  ((h.wired_offering hchecks logger position).allocate m parts).evolves_of_instantiate hinstantiate

/-- An instance that can be called is entered. -/
theorem Service.Sound.enter (h : Service.Sound ⟨s, earlier⟩) {i : Instance}
    (hi : s.instances[entry.place]? = some i) (allocates : Allocates s i) (name : String) :
    Service.Sound ⟨entered s name entry.place, earlier.insert name entry⟩ where
  directory name' := by
    show (s.data.directory.insert name entry.place).get? name' = _
    rw [Dict.get?_insert, Dict.get?_insert]
    split
    · rfl
    · exact h.directory name'
  instances name' m hm := by
    rw [Dict.get?_insert] at hm
    split at hm
    · cases hm
      exact ⟨i, hi, allocates.memory, allocates.allocate⟩
    · obtain ⟨j, hj, allocates⟩ := h.instances name' m hm
      exact ⟨j, hj, allocates.memory, allocates.allocate⟩
  wired module function held := by
    obtain ⟨place, hplace, hinst⟩ := h.wired module function held
    by_cases hname : module = name
    · exact ⟨entry.place, by rw [entered, Dict.get?_insert, if_pos hname], i, hi⟩
    · exact ⟨place, by rw [entered, Dict.get?_insert, if_neg hname, hplace], hinst⟩

/-- **Instantiating a module leaves the tables in agreement.** -/
theorem Service.Sound.addModule (h : Service.Sound ⟨s, earlier⟩)
    (hadd : Gives (addModule regime control serviceId earlier d) s entry s') :
    Service.Sound ⟨s', earlier.insert d.importName entry⟩ := by
  obtain ⟨m, s₂, parts, a, hdecode, -, hchecks, -, hlink, hinstantiate, ha, rfl⟩ :=
    addModule_gives.1 hadd
  generalize hfunctions : importable s.data.loggers.length m.imports = functions at *
  generalize hs₁ : offering s (d.logger serviceId) functions = s₁ at *
  have grows : Extends s (m.allocate parts s₁) := hs₁ ▸ extends_linked s _ functions m parts
  have wired : Wired (m.allocate parts s₁) := by
    subst hs₁ hfunctions
    exact (h.wired_offering hchecks _ _).allocate m parts
  have evolves := wired.evolves_of_instantiate hinstantiate
  have hinst : s₂.instances[entry.place]? = some (m.newInstance s₁ parts) := by
    rw [evolves.instances, Wasm.instantiate_value hinstantiate]
    exact List.getElem?_concat_length
  have allocates : Allocates s₂ (m.newInstance s₁ parts) := by
    rw [List.getD_eq_getElem?_getD, hinst, Option.getD_some] at ha
    refine .of_ofInstance ha fun place hexport => ?_
    rw [evolves.memory_count]
    exact Module.holds_newInstance (Module.whole_of_decode? hdecode)
      (fun _ => Wasm.holds_of_link hlink) (.memory place) (Module.has_of_export hexport)
  exact ((h.extend grows wired).evolve evolves).enter hinst allocates d.importName

end

/-! ## Services -/

/-- A registration has instantiated the control module and then the modules `done`. -/
inductive Composed (regime : Regime) (control : Module) (d : ServiceDescriptor) (sink : Sink) :
    List ModuleDescriptor → Store guests → RegisteredModules → Prop
  | control {s : Store guests}
      (ready : control.instantiate hostFunctions regime [] (Service.freshStore d sink) =
        .value 0 s) : Composed regime control d sink [] s Dict.empty
  | module {done : List ModuleDescriptor} {s s' : Store guests} {earlier : RegisteredModules}
      {md : ModuleDescriptor} {entry : RegisteredModule}
      (before : Composed regime control d sink done s earlier)
      (added : Gives (addModule regime 0 d.serviceId earlier md) s entry s') :
      Composed regime control d sink (done ++ [md]) s' (earlier.insert md.importName entry)

/-- The facade of a service is that of a descriptor, with the functions that its file declares. -/
def Service.Fronts (service : Service) (d : ServiceDescriptor) : Prop :=
  ∀ md, d.facade? = some md → ∃ m, service.modules.get? md.importName = some m ∧
    Interface.ofModule md.bytes.bytes = .ok m.interface

namespace Composed

variable {regime : Regime} {control : Module} {d : ServiceDescriptor} {sink : Sink}
  {done : List ModuleDescriptor} {s s' : Store guests} {earlier modules : RegisteredModules}

theorem addModules {ds : List ModuleDescriptor} (h : Composed regime control d sink done s earlier)
    (hadd : Gives (addModules regime 0 d.serviceId earlier ds) s modules s') :
    Composed regime control d sink (done ++ ds) s' modules := by
  induction ds generalizing done s earlier with
  | nil =>
    obtain ⟨rfl, rfl⟩ := gives_pure.1 hadd
    rwa [List.append_nil]
  | cons md ds ih =>
    obtain ⟨entry, s₁, hentry, hrest⟩ := gives_bind.1 hadd
    have := ih (h.module hentry) hrest
    rwa [List.append_assoc] at this

theorem of_registerModules
    (h : Gives (registerModules regime control d) (Service.freshStore d sink) modules s) :
    Composed regime control d sink d.modules s modules := by
  obtain ⟨place, s₁, hcontrol, hmodules⟩ := gives_bind.1 h
  replace hcontrol := gives_runOrRefuse.1 hcontrol
  obtain rfl : place = 0 := Wasm.instantiate_value hcontrol
  exact (Composed.control hcontrol).addModules hmodules

/-- **At every stage the tables agree.** -/
theorem sound (h : Composed regime control d sink done s earlier) : Service.Sound ⟨s, earlier⟩ := by
  induction h with
  | control ready =>
    have fresh : Service.Sound ⟨Service.freshStore d sink, Dict.empty⟩ :=
      ⟨fun _ => rfl, fun _ _ hm => (nomatch hm), fun _ _ ⟨_, held⟩ => nomatch held⟩
    have wired := fresh.wired.allocate control []
    exact (fresh.extend (extends_allocate control [] _) wired).evolve
      (wired.evolves_of_instantiate ready)
  | module before added ih => exact ih.addModule added

/-- The last module is in the table, with the functions that its file declares. -/
theorem last (h : Composed regime control d sink done s earlier) {md : ModuleDescriptor}
    (hlast : done.getLast? = some md) :
    ∃ m, earlier.get? md.importName = some m ∧
      Interface.ofModule md.bytes.bytes = .ok m.interface := by
  cases h with
  | control => cases hlast
  | @module _ _ _ _ md' entry _ added =>
    rw [List.getLast?_concat, Option.some.injEq] at hlast
    subst hlast
    obtain ⟨_, _, _, _, -, hinterface, -⟩ := addModule_gives.1 added
    exact ⟨entry, by rw [Dict.get?_insert, if_pos rfl], hinterface⟩

end Composed

/-- A service that is registered is what the last stage of its registration left. -/
theorem Service.stage_of_build {regime : Regime} {control : Module} {d : ServiceDescriptor}
    {sink : Sink} {service : Service}
    (h : (build regime control d sink).result = some (.ok service)) :
    let s := ((registerModules regime control d).run (freshStore d sink)).store
    Composed regime control d sink d.modules s service.modules ∧ service.store = settled s := by
  unfold build at h
  split at h
  · next modules s hrun =>
    cases h
    rw [hrun]
    exact ⟨.of_registerModules hrun, rfl⟩
  · cases h
  · cases h

/-- **A service that is registered is sound and has its facade.** -/
theorem Service.build_ok {regime : Regime} {control : Module} {d : ServiceDescriptor} {sink : Sink}
    {service : Service} (h : (build regime control d sink).result = some (.ok service)) :
    service.Sound ∧ service.Fronts d := by
  obtain ⟨stage, hstore⟩ := stage_of_build h
  refine ⟨?_, fun md hmd => stage.last hmd⟩
  obtain ⟨store, modules⟩ := service
  obtain rfl : store = settled _ := hstore
  exact stage.sound.put (.refl _)

/-! ## What registrations keep -/

namespace Registering

variable {α β : Type} {P : Store guests → Prop} {Q : GuestStop → Prop} {module : String}

/-- A step of a registration keeps a property of the store, also where it fails. -/
def Keeps (P : Store guests → Prop) (Q : GuestStop → Prop) (x : Registering α) : Prop :=
  Run.Keeps P Q x.run

theorem keeps_pure (a : α) : Keeps P Q (pure a) := Run.Keeps.of_pure _

theorem keeps_bind {x : Registering α} {f : α → Registering β} (hx : Keeps P Q x)
    (hf : ∀ a, Keeps P Q (f a)) : Keeps P Q (x >>= f) := by
  refine Run.Keeps.bind hx fun result => ?_
  cases result with
  | ok a => exact hf a
  | error cause => exact .of_pure _

theorem keeps_lift {x : Guest α} (hx : Run.Keeps P Q x) :
    Keeps P Q (liftM x : Registering α) :=
  hx.bind fun _ => .of_pure _

theorem keeps_orRefuse (x : Except String α) : Keeps P Q (orRefuse module x) := by
  cases x <;> exact Run.Keeps.of_pure _

theorem keeps_orEngine (x : Option α) : Keeps P Q (orEngine module x) := by
  cases x <;> exact Run.Keeps.of_pure _

theorem keeps_runOrRefuse {x : Guest α} (hx : Run.Keeps P Q x) :
    Keeps P Q (runOrRefuse module x) := by
  refine keeps_bind (keeps_lift hx.attempt) fun result => ?_
  cases result <;> exact Run.Keeps.of_pure _

end Registering

/-- A property of stores that calls of a service keep and that has nothing to do with which
instances there are. -/
structure InstanceRules (May : Wasm.Calls) (P : Store guests → Prop) (Q : GuestStop → Prop) :
    Prop extends GuestRules May P Q where
  functions : ∀ s functions, P s → P { s with functions := s.functions ++ functions }
  allocate : ∀ (m : Module) parts s, P s → P (m.allocate parts s)
  directory : ∀ s module place, P s → P (entered s module place)

/-- The same, and the property has nothing to do with loggers. -/
structure RegistrationRules (May : Wasm.Calls) (P : Store guests → Prop) (Q : GuestStop → Prop) :
    Prop extends InstanceRules May P Q where
  logger : ∀ s logger, P s →
    P { s with data := { s.data with loggers := s.data.loggers ++ [logger] } }

section

variable {May : Wasm.Calls} {P : Store guests → Prop} {Q : GuestStop → Prop} (regime : Regime)

namespace InstanceRules

variable (rules : InstanceRules May P Q)

include rules

theorem keeps_instantiate (m : Module) (parts : List Extern) :
    Run.Keeps P Q (m.instantiate hostFunctions regime parts) :=
  fun s hs => rules.within_instantiate regime (rules.allocate m parts s hs)

theorem keeps_instantiateLinked (control : Nat) (name : String) (m : Module)
    (functions : List ((String × String) × HostFunction)) :
    Keeps P Q (instantiateLinked regime control name m functions) := by
  refine keeps_bind (keeps_lift fun s hs => ?_) fun offered => ?_
  · exact rules.functions s _ hs
  · refine keeps_bind (keeps_lift fun s hs => hs) fun s => ?_
    refine keeps_bind (keeps_orEngine _) fun parts => ?_
    exact keeps_runOrRefuse (rules.keeps_instantiate regime m parts)

/-- What holds once the logger of a module is there holds when the module is instantiated, or
refused. -/
theorem within_addModule (control : Nat) (serviceId : String) (earlier : RegisteredModules)
    (d : ModuleDescriptor) {s : Store guests}
    (hs : P { s with data := { s.data with loggers := s.data.loggers ++ [d.logger serviceId] } }) :
    ((addModule regime control serviceId earlier d).run s).Within P Q := by
  have look : Keeps P Q (liftM Run.store : Registering (Store guests)) := keeps_lift fun s hs => hs
  have first {f : Store guests → Registering RegisteredModule}
      (h : ((f s).run s).Within P Q) :
      (((liftM Run.store : Registering (Store guests)) >>= f).run s).Within P Q := h
  have then_ {f : Unit → Registering RegisteredModule} (h : Keeps P Q (f ())) :
      (((liftM (addLogger (d.logger serviceId)) : Registering Unit) >>= f).run s).Within P Q :=
    h _ hs
  refine first (then_ ?_)
  refine keeps_bind (keeps_orRefuse _) fun interface => ?_
  refine keeps_bind (keeps_orEngine _) fun m => ?_
  refine keeps_bind look fun s => ?_
  refine keeps_bind (keeps_orRefuse _) fun _ => ?_
  refine keeps_bind (keeps_orRefuse _) fun _ => ?_
  refine keeps_bind (rules.keeps_instantiateLinked regime control _ m _) fun place => ?_
  refine keeps_bind look fun s => ?_
  refine keeps_bind (keeps_orRefuse _) fun _ => ?_
  exact keeps_bind (keeps_lift fun s hs => rules.directory s _ place hs) fun _ => keeps_pure _

end InstanceRules

namespace RegistrationRules

variable (rules : RegistrationRules May P Q)

include rules

theorem keeps_addModules (control : Nat) (serviceId : String) (ds : List ModuleDescriptor) :
    ∀ earlier, Keeps P Q (addModules regime control serviceId earlier ds) := by
  induction ds with
  | nil => exact fun earlier => keeps_pure earlier
  | cons d ds ih =>
    refine fun earlier => keeps_bind (fun s hs => ?_) fun entry => ih _
    exact rules.within_addModule regime control serviceId earlier d (rules.logger s _ hs)

/-- **Registrations keep the property, also those that fail.** -/
theorem keeps_registerModules (control : Module) (d : ServiceDescriptor) :
    Keeps P Q (registerModules regime control d) :=
  keeps_bind (keeps_runOrRefuse (rules.keeps_instantiate regime control [])) fun place =>
    rules.keeps_addModules regime place d.serviceId d.modules _

end RegistrationRules

end

/-- Code that runs in a store adds no loggers and no instances. -/
theorem static_rules (P : List Logger → List Instance → Prop) :
    GuestRules (fun _ _ _ => True) (fun s : Store guests => P s.data.loggers s.instances)
      fun _ => True :=
  GuestInvariant.rules {
    steady := ⟨fun _ _ _ _ hs _ _ => hs, fun _ _ _ _ hs _ => hs⟩
    lenient := ⟨trivial, trivial, trivial⟩
    broken := trivial
    plain := fun _ _ => trivial
    records := fun _ _ hs => hs
    free := fun _ _ _ hs => hs
    parameters := fun _ _ _ hs' => hs'
    sibling := fun _ _ _ hs _ => hs
    missing := fun _ _ _ _ _ _ => trivial
    failed := fun _ _ _ _ _ _ _ => trivial }

/-- Loggers are added by registrations only. -/
theorem loggers_instanceRules (gs : List Logger) :
    InstanceRules (fun _ _ _ => True) (fun s => s.data.loggers = gs) fun _ => True where
  toGuestRules := static_rules fun loggers _ => loggers = gs
  functions _ _ hs := hs
  allocate _ _ _ hs := hs
  directory _ _ _ hs := hs

theorem loggers_addModules (regime : Regime) (control : Nat) (serviceId : String)
    (ds : List ModuleDescriptor) : ∀ (earlier : RegisteredModules) (s : Store guests),
      ((addModules regime control serviceId earlier ds).run s).store.data.loggers <+:
        s.data.loggers ++ ds.map (·.logger serviceId) := by
  induction ds with
  | nil => exact fun earlier s => List.prefix_append _ _
  | cons d ds ih =>
    intro earlier s
    have within := (loggers_instanceRules (s.data.loggers ++ [d.logger serviceId])).within_addModule
      regime control serviceId earlier d (s := s) rfl
    have happend : s.data.loggers ++ (d :: ds).map (·.logger serviceId) =
        s.data.loggers ++ [d.logger serviceId] ++ ds.map (·.logger serviceId) := by
      rw [List.map_cons, List.append_assoc, List.singleton_append]
    rw [happend, addModules, run_bind]
    cases hrun : (addModule regime control serviceId earlier d).run s with
    | stop why s₁ =>
      rw [hrun] at within
      exact within.1 ▸ List.prefix_append _ _
    | value result s₁ =>
      rw [hrun] at within
      cases result with
      | ok entry => exact within ▸ ih (earlier.insert d.importName entry) s₁
      | error cause => exact within ▸ List.prefix_append _ _

/-- **The loggers of a registration are those of its modules in order, as far as it came.** -/
theorem loggers_registerModules (regime : Regime) (control : Module) (d : ServiceDescriptor)
    (sink : Sink) :
    ((registerModules regime control d).run (Service.freshStore d sink)).store.data.loggers <+:
      d.modules.map (·.logger d.serviceId) := by
  have within : ((runOrRefuse controlNamespace (control.instantiate hostFunctions regime [])).run
      (Service.freshStore d sink)).Within (fun s : Store guests => s.data.loggers = [])
        fun _ => True :=
    keeps_runOrRefuse ((loggers_instanceRules []).keeps_instantiate regime control [])
      (Service.freshStore d sink) rfl
  rw [registerModules, run_bind]
  revert within
  cases (runOrRefuse controlNamespace
      (control.instantiate hostFunctions regime [])).run (Service.freshStore d sink) with
  | stop why s =>
    intro within
    exact within.1 ▸ List.nil_prefix
  | value result s =>
    intro within
    cases result with
    | error cause => exact within ▸ List.nil_prefix
    | ok place =>
      have rest := loggers_addModules regime place d.serviceId d.modules Dict.empty s
      rwa [show s.data.loggers = [] from within, List.nil_append] at rest

end ModuleHost
