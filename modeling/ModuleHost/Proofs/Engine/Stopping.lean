import ModuleHost.Proofs.Engine.Acceptance

/-!
# Registrations that fail

A registration instantiates the modules of a service in order and stops at the first that is
refused. What stands behind that module does not matter.

* `Registering.Refuses` — a step of a registration fails;
* **`addModule_refuses`** — what is left of a module that is refused;
* `ModuleDescriptor.content` — what a registration sees of a module;
* `Composed.gives`, `Composed.congr`, `Composed.counts` — a stage is what the modules so far leave,
  whatever is behind;
* `RefusedAt`, **`registerModules_refuses_iff`** — a registration fails at one module;
* `Engine.StopsAt` — what comes of that;
* **`Engine.inOrder`**: only the modules up to the one that is refused decide what comes of a
  registration, and the modules at the front of a service that is registered are registered.
-/

namespace ModuleHost

open Wasm (Store Run Regime Module)

/-! ## Steps that refuse a module -/

namespace Registering

variable {α β : Type} {s s' : Store guests} {a : α} {cause : RuntimeError} {module : String}

/-- A step of a registration fails and leaves the store `s'`. -/
def Refuses (x : Registering α) (s : Store guests) (cause : RuntimeError) (s' : Store guests) :
    Prop :=
  x.run s = .value (.error cause) s'

theorem refuses_bind {x : Registering α} {f : α → Registering β} :
    Refuses (x >>= f) s cause s' ↔
      Refuses x s cause s' ∨ ∃ a s₁, Gives x s a s₁ ∧ Refuses (f a) s₁ cause s' := by
  unfold Refuses Gives
  rw [run_bind]
  cases x.run s with
  | stop why s₁ => simp
  | value result s₁ => cases result <;> simp

theorem bind_assoc {γ : Type} (x : Registering α) (f : α → Registering β) (g : β → Registering γ) :
    x >>= f >>= g = x >>= fun a => f a >>= g := by
  funext s
  change (x >>= f >>= g).run s = (x >>= fun a => f a >>= g).run s
  rw [run_bind, run_bind, run_bind]
  cases x.run s with
  | stop why s₁ => rfl
  | value result s₁ =>
    cases result with
    | error cause => rfl
    | ok a => exact (run_bind (f a) g s₁).symm

theorem not_refuses_pure : ¬Refuses (pure a) s cause s' := nofun

theorem not_refuses_lift {x : Guest α} : ¬Refuses (liftM x) s cause s' := by
  intro h
  obtain ⟨_, _, -, h⟩ := Wasm.Run.bind_eq_value.1 h
  cases h

theorem refuses_orRefuse {x : Except String α} :
    Refuses (orRefuse module x) s cause s' ↔
      ∃ reason, x = .error reason ∧ cause = .registration module reason ∧ s' = s := by
  cases x with
  | ok a => exact ⟨(nomatch ·), fun ⟨_, h, _⟩ => nomatch h⟩
  | error reason =>
    constructor
    · intro h
      cases h
      exact ⟨reason, rfl, rfl, rfl⟩
    · rintro ⟨_, h, rfl, rfl⟩
      cases h
      rfl

theorem refuses_orEngine {x : Option α} :
    Refuses (orEngine module x) s cause s' ↔
      x = none ∧ cause = .registration module engineTag ∧ s' = s := by
  cases x with
  | some a => exact ⟨(nomatch ·), fun h => nomatch h.1⟩
  | none =>
    constructor
    · intro h
      cases h
      exact ⟨rfl, rfl, rfl⟩
    · rintro ⟨-, rfl, rfl⟩
      rfl

theorem refuses_runOrRefuse {x : Guest α} (h : Refuses (runOrRefuse module x) s cause s') :
    (x s).store = s' ∧ ∃ reason, cause = .registration module reason := by
  rcases refuses_bind.1 h with h | ⟨result, s₁, hattempt, h⟩
  · exact absurd h not_refuses_lift
  have hattempt := gives_lift.1 hattempt
  cases result with
  | ok a => exact absurd h not_refuses_pure
  | error why =>
    cases h
    refine ⟨?_, _, rfl⟩
    rw [Run.attempt] at hattempt
    cases hx : x s with
    | value a s₂ => simp [hx] at hattempt
    | stop why' s₂ => cases why' <;> simp_all [Wasm.Ended.store]

end Registering

open Registering

/-! ## Modules that are refused -/

section

variable {regime : Regime} {control : Nat} {serviceId : String} {earlier : RegisteredModules}
  {d : ModuleDescriptor} {s s' : Store guests} {cause : RuntimeError} {entry : RegisteredModule}

theorem instantiateLinked_refuses {logger : Logger} {name : String} {m : Module}
    {functions : List ((String × String) × HostFunction)}
    (h : Refuses (instantiateLinked regime control name m functions) (logging s logger) cause s') :
    (∃ reason, cause = .registration name reason) ∧
      (s' = offering s logger functions ∨ ∃ parts,
        s' = (m.instantiate hostFunctions regime parts (offering s logger functions)).store) := by
  unfold instantiateLinked at h
  simp only [refuses_bind, not_refuses_lift, refuses_orEngine, gives_lift, gives_orEngine,
    false_or] at h
  obtain ⟨_, _, hoffer, _, _, hstore, h⟩ := h
  cases hoffer
  cases hstore
  rcases h with ⟨-, hcause, hs'⟩ | ⟨parts, _, ⟨-, rfl⟩, h⟩
  · exact ⟨⟨_, hcause⟩, .inl hs'⟩
  · obtain ⟨hs', hcause⟩ := refuses_runOrRefuse h
    exact ⟨hcause, .inr ⟨parts, hs'.symm⟩⟩

/-- **What is left of a module that is refused**: its logger, maybe the functions that it can
import, maybe its instance. -/
theorem addModule_refuses (h : Refuses (addModule regime control serviceId earlier d) s cause s') :
    (∃ reason, cause = .registration d.importName reason) ∧
      (s' = logging s (d.logger serviceId) ∨ ∃ m : Module,
        let s₁ := offering s (d.logger serviceId) (importable s.data.loggers.length m.imports)
        s' = s₁ ∨ ∃ parts, s' = (m.instantiate hostFunctions regime parts s₁).store) := by
  unfold addModule at h
  simp only [refuses_bind, not_refuses_lift, not_refuses_pure, refuses_orRefuse, refuses_orEngine,
    gives_lift, gives_orRefuse, gives_orEngine, false_or, and_false, exists_false, or_false] at h
  obtain ⟨_, _, hstore, _, _, hlog, h⟩ := h
  cases hstore
  cases hlog
  -- the metadata, the file, the imports, their names
  rcases h with ⟨_, -, hcause, hs'⟩ | ⟨_, _, ⟨-, rfl⟩, h⟩
  · exact ⟨⟨_, hcause⟩, .inl hs'⟩
  rcases h with ⟨-, hcause, hs'⟩ | ⟨m, _, ⟨-, rfl⟩, _, _, hstore, h⟩
  · exact ⟨⟨_, hcause⟩, .inl hs'⟩
  cases hstore
  rcases h with ⟨_, -, hcause, hs'⟩ | ⟨_, _, ⟨-, rfl⟩, h⟩
  · exact ⟨⟨_, hcause⟩, .inl hs'⟩
  rcases h with ⟨_, -, hcause, hs'⟩ | ⟨_, _, ⟨-, rfl⟩, h⟩
  · exact ⟨⟨_, hcause⟩, .inl hs'⟩
  rcases h with h | ⟨place, s₂, hlinked, _, _, hstore, _, -, hcause, hs'⟩
  · obtain ⟨hcause, hs'⟩ := instantiateLinked_refuses h
    exact ⟨hcause, .inr ⟨m, hs'⟩⟩
  · -- the module has no allocator
    cases hstore
    obtain ⟨parts, -, hinstantiate⟩ := instantiateLinked_gives.1 hlinked
    refine ⟨⟨_, hcause⟩, .inr ⟨m, .inr ⟨parts, ?_⟩⟩⟩
    rw [hs', hinstantiate]
    rfl

/-- The loggers and the number of instances in a store. -/
def Counts (gs : List Logger) (n : Nat) (s : Store guests) : Prop :=
  s.data.loggers = gs ∧ s.instances.length = n

theorem counts_instantiate {gs : List Logger} {n : Nat} (h : Counts gs n s) (regime : Regime)
    (m : Module) (parts : List Wasm.Extern) :
    Counts gs (n + 1) (m.instantiate hostFunctions regime parts s).store := by
  have hallocate : Counts gs (n + 1) (m.allocate parts s) := by
    refine ⟨h.1, ?_⟩
    rw [← h.2]
    exact List.length_append
  have rules := static_rules fun loggers instances => loggers = gs ∧ instances.length = n + 1
  exact (rules.within_instantiate regime hallocate).store

theorem counts_offering {gs : List Logger} {n : Nat} (h : Counts gs n s) (logger : Logger)
    (functions : List ((String × String) × HostFunction)) :
    Counts (gs ++ [logger]) n (offering s logger functions) :=
  ⟨congrArg (· ++ [logger]) h.1, h.2⟩

theorem counts_of_gives {gs : List Logger} {n : Nat} (h : Counts gs n s)
    (hadd : Gives (addModule regime control serviceId earlier d) s entry s') :
    Counts (gs ++ [d.logger serviceId]) (n + 1) s' := by
  obtain ⟨m, s₂, parts, a, -, -, -, -, -, hinstantiate, -, rfl⟩ := addModule_gives.1 hadd
  have counts := counts_instantiate (counts_offering h (d.logger serviceId)
    (importable s.data.loggers.length m.imports)) regime m parts
  rw [hinstantiate] at counts
  exact counts

theorem counts_of_refuses {gs : List Logger} {n : Nat} (h : Counts gs n s)
    (hadd : Refuses (addModule regime control serviceId earlier d) s cause s') :
    ∃ n' ≤ n + 1, Counts (gs ++ [d.logger serviceId]) n' s' := by
  rcases (addModule_refuses hadd).2 with rfl | ⟨m, rfl | ⟨parts, rfl⟩⟩
  · exact ⟨n, n.le_succ, counts_offering h _ []⟩
  · exact ⟨n, n.le_succ, counts_offering h _ _⟩
  · exact ⟨n + 1, Nat.le_refl _, counts_instantiate (counts_offering h _ _) regime m parts⟩

end

/-! ## Stages -/

section

variable {regime : Regime} {control : Module} {d d' : ServiceDescriptor} {sink : Sink}
  {done : List ModuleDescriptor} {s s' : Store guests} {earlier modules : RegisteredModules}
  {cause : RuntimeError}

/-- The modules of a service in two parts, one instantiated after the other. -/
theorem addModules_append (regime : Regime) (control : Nat) (serviceId : String)
    (earlier : RegisteredModules) (before after : List ModuleDescriptor) :
    addModules regime control serviceId earlier (before ++ after) =
      addModules regime control serviceId earlier before >>= fun earlier =>
        addModules regime control serviceId earlier after := by
  induction before generalizing earlier with
  | nil => rfl
  | cons md before ih =>
    simp only [List.cons_append, addModules, ih]
    exact (Registering.bind_assoc _ _ _).symm

/-- What a registration sees of a module: its name, its bytes, however they came, and its
settings. -/
def ModuleDescriptor.content (md : ModuleDescriptor) : String × Bytes × ModuleConfig :=
  (md.importName, md.bytes.bytes, md.config)

theorem addModule_congr {md md' : ModuleDescriptor} (h : md'.content = md.content)
    (regime : Regime) (control : Nat) (serviceId : String) (earlier : RegisteredModules) :
    addModule regime control serviceId earlier md' =
      addModule regime control serviceId earlier md := by
  obtain ⟨hname, hbytes, hconfig⟩ : md'.importName = md.importName ∧
      md'.bytes.bytes = md.bytes.bytes ∧ md'.config = md.config := by
    simpa [ModuleDescriptor.content] using h
  unfold addModule ModuleDescriptor.logger
  rw [hname, hbytes, hconfig]

theorem addModules_congr {ds ds' : List ModuleDescriptor}
    (h : ds'.map (·.content) = ds.map (·.content)) (regime : Regime) (control : Nat)
    (serviceId : String) (earlier : RegisteredModules) :
    addModules regime control serviceId earlier ds' =
      addModules regime control serviceId earlier ds := by
  induction ds generalizing ds' earlier with
  | nil => rw [List.map_eq_nil_iff.1 h]
  | cons md ds ih =>
    obtain ⟨md', ds', rfl, hmd, hds⟩ := List.map_eq_cons_iff.1 h
    have hname : md'.importName = md.importName := congrArg Prod.fst hmd
    rw [addModules, addModules, addModule_congr hmd, hname]
    congr 1
    funext entry
    exact ih hds _

namespace Composed

/-- A stage is what the modules so far leave. -/
theorem gives (h : Composed regime control d sink done s earlier) :
    ∃ s₀, control.instantiate hostFunctions regime [] (Service.freshStore d sink) = .value 0 s₀ ∧
      Gives (ModuleHost.addModules regime 0 d.serviceId Dict.empty done) s₀ earlier s := by
  induction h with
  | control ready => exact ⟨_, ready, gives_pure.2 ⟨rfl, rfl⟩⟩
  | @module done s s' earlier md entry before added ih =>
    obtain ⟨s₀, ready, hdone⟩ := ih
    refine ⟨s₀, ready, ?_⟩
    rw [addModules_append]
    exact gives_bind.2 ⟨earlier, s, hdone, gives_bind.2 ⟨entry, s', added, gives_pure.2 ⟨rfl, rfl⟩⟩⟩

/-- What the modules so far leave is a stage of every service that begins with such modules. -/
theorem congr (h : Composed regime control d sink done s earlier) {done' : List ModuleDescriptor}
    (hid : d'.serviceId = d.serviceId) (hdone : done'.map (·.content) = done.map (·.content)) :
    Composed regime control d' sink done' s earlier := by
  obtain ⟨s₀, ready, hadd⟩ := h.gives
  have ready' : Composed regime control d' sink [] s₀ Dict.empty :=
    .control (by rwa [Service.freshStore, hid])
  exact ready'.addModules (by rwa [addModules_congr hdone, hid])

/-- The stages before a stage. -/
theorem before {rest : List ModuleDescriptor}
    (h : Composed regime control d sink (done ++ rest) s earlier) :
    ∃ s₁ earlier₁, Composed regime control d sink done s₁ earlier₁ := by
  obtain ⟨s₀, ready, hadd⟩ := h.gives
  rw [addModules_append] at hadd
  obtain ⟨earlier₁, s₁, hdone, -⟩ := gives_bind.1 hadd
  exact ⟨s₁, earlier₁, (Composed.control ready).addModules hdone⟩

/-- At a stage each module so far has a logger and an instance. -/
theorem counts (h : Composed regime control d sink done s earlier) :
    Counts (done.map (·.logger d.serviceId)) (done.length + 1) s := by
  induction h with
  | control ready =>
    have fresh : Counts [] 0 (Service.freshStore d sink) := ⟨rfl, rfl⟩
    have counts := counts_instantiate fresh regime control []
    rw [ready] at counts
    exact counts
  | module before added ih =>
    rw [List.map_append, List.length_append]
    exact counts_of_gives ih added

/-- **Registering is refused as the modules behind a stage are.** -/
theorem registerModules_refuses (h : Composed regime control d sink done s earlier)
    {rest : List ModuleDescriptor} (hmodules : d.modules = done ++ rest)
    (hrest : Refuses (ModuleHost.addModules regime 0 d.serviceId earlier rest) s cause s') :
    Refuses (registerModules regime control d) (Service.freshStore d sink) cause s' := by
  obtain ⟨s₀, ready, hdone⟩ := h.gives
  rw [registerModules, hmodules]
  simp only [addModules_append]
  exact refuses_bind.2 (.inr ⟨0, s₀, gives_runOrRefuse.2 ready,
    refuses_bind.2 (.inr ⟨earlier, s, hdone, hrest⟩)⟩)

theorem exists_refused {rest : List ModuleDescriptor}
    (h : Composed regime control d sink done s earlier)
    (hrest : Refuses (ModuleHost.addModules regime 0 d.serviceId earlier rest) s cause s') :
    ∃ before md after s₁ earlier₁, rest = before ++ md :: after ∧
      Composed regime control d sink (done ++ before) s₁ earlier₁ ∧
      Refuses (addModule regime 0 d.serviceId earlier₁ md) s₁ cause s' := by
  induction rest generalizing done s earlier with
  | nil => exact absurd hrest not_refuses_pure
  | cons md rest ih =>
    rcases refuses_bind.1 hrest with hmd | ⟨entry, s₁, added, hrest⟩
    · exact ⟨[], md, rest, s, earlier, rfl, by rwa [List.append_nil], hmd⟩
    · obtain ⟨before, md', after, s₂, earlier₂, rfl, stage, refused⟩ := ih (h.module added) hrest
      refine ⟨md :: before, md', after, s₂, earlier₂, rfl, ?_, refused⟩
      rwa [List.append_assoc] at stage

end Composed

/-! ## Where a registration stops -/

/-- The control module is refused. -/
def ControlRefused (regime : Regime) (control : Module) (d : ServiceDescriptor) (sink : Sink)
    (cause : RuntimeError) (s : Store guests) : Prop :=
  Refuses (runOrRefuse controlNamespace (control.instantiate hostFunctions regime []))
    (Service.freshStore d sink) cause s

/-- The modules before the position `i` are instantiated and the one there is refused. -/
def RefusedAt (regime : Regime) (control : Module) (d : ServiceDescriptor) (sink : Sink) (i : Nat)
    (cause : RuntimeError) (s' : Store guests) : Prop :=
  ∃ md s earlier, d.modules[i]? = some md ∧
    Composed regime control d sink (d.modules.take i) s earlier ∧
    Refuses (addModule regime 0 d.serviceId earlier md) s cause s'

namespace RefusedAt

variable {i : Nat}

/-- The modules behind do not matter. -/
theorem congr (h : RefusedAt regime control d sink i cause s) (hid : d'.serviceId = d.serviceId)
    (hmodules : (d'.modules.take (i + 1)).map (·.content) =
      (d.modules.take (i + 1)).map (·.content)) :
    RefusedAt regime control d' sink i cause s := by
  obtain ⟨md, s₁, earlier, hmd, stage, refused⟩ := h
  obtain ⟨md', hmd', hcontent⟩ : ∃ md', d'.modules[i]? = some md' ∧ md'.content = md.content := by
    have hget := congrArg (·[i]?) hmodules
    simpa [List.getElem?_take_of_lt, hmd] using hget
  refine ⟨md', s₁, earlier, hmd', stage.congr hid ?_, by rwa [addModule_congr hcontent, hid]⟩
  simpa [← List.map_take, List.take_take] using congrArg (List.take i) hmodules

theorem registerModules_refuses (h : RefusedAt regime control d sink i cause s) :
    Refuses (registerModules regime control d) (Service.freshStore d sink) cause s := by
  obtain ⟨md, s₁, earlier, hmd, stage, refused⟩ := h
  obtain ⟨hi, rfl⟩ := List.getElem?_eq_some_iff.1 hmd
  have hmodules : d.modules = d.modules.take i ++ d.modules[i] :: d.modules.drop (i + 1) := by simp
  exact stage.registerModules_refuses hmodules (refuses_bind.2 (.inl refused))

theorem le_of_composed (h : RefusedAt regime control d sink i cause s) {k : Nat} {s₁ : Store guests}
    {earlier : RegisteredModules}
    (stage : Composed regime control d sink (d.modules.take k) s₁ earlier) : k ≤ i := by
  by_contra hk
  -- the modules as far as that stage would be registered and refused
  let d' : ServiceDescriptor := { d with modules := d.modules.take k }
  have hmodules : d'.modules.take (i + 1) = d.modules.take (i + 1) := by
    simp only [d', List.take_take]
    rw [Nat.min_eq_left (by omega)]
  have stage' : Composed regime control d' sink d'.modules s₁ earlier := stage.congr rfl rfl
  have h' : RefusedAt regime control d' sink i cause s := h.congr rfl (congrArg _ hmodules)
  obtain ⟨s₀, ready, hadd⟩ := stage'.gives
  have refused := h'.registerModules_refuses
  have registered : Gives (registerModules regime control d') (Service.freshStore d' sink) earlier
      s₁ := gives_bind.2 ⟨0, s₀, gives_runOrRefuse.2 ready, hadd⟩
  rw [Refuses, show _ = _ from registered] at refused
  cases refused

end RefusedAt

/-- **A registration fails with the control module or at one module.** -/
theorem registerModules_refuses_iff :
    Refuses (registerModules regime control d) (Service.freshStore d sink) cause s ↔
      ControlRefused regime control d sink cause s ∨
        ∃ i, RefusedAt regime control d sink i cause s := by
  constructor
  · intro h
    rcases refuses_bind.1 h with hcontrol | ⟨place, s₀, ready, hmodules⟩
    · exact .inl hcontrol
    replace ready := gives_runOrRefuse.1 ready
    obtain rfl : place = 0 := Wasm.instantiate_value ready
    obtain ⟨before, md, after, s₁, earlier, hd, stage, refused⟩ :=
      (Composed.control ready).exists_refused hmodules
    refine .inr ⟨before.length, md, s₁, earlier, by simp [hd], ?_, refused⟩
    rwa [hd, List.take_left]
  · rintro (h | ⟨i, h⟩)
    · exact refuses_bind.2 (.inl h)
    · exact h.registerModules_refuses

end

/-! ## Registering with an engine -/

namespace Engine

variable {e : Engine} {d d' : ServiceDescriptor} {sink : Sink} {cause : RuntimeError}

theorem register_of_refuses {s : Store guests}
    (h : Refuses (registerModules e.regime e.control d) (Service.freshStore d sink) cause s) :
    e.register d sink = .failed cause e s.data.records := by
  unfold register Service.build
  rw [show _ = _ from h]
  rfl

theorem register_failed_iff : (e.register d sink).result = some (.error cause) ↔
    ∃ s, Refuses (registerModules e.regime e.control d) (Service.freshStore d sink) cause s := by
  unfold register Service.build Refuses
  cases (registerModules e.regime e.control d).run (Service.freshStore d sink) with
  | stop why s => exact ⟨(nomatch ·), fun ⟨_, h⟩ => nomatch h⟩
  | value result s =>
    cases result with
    | ok modules => exact ⟨(nomatch ·), fun ⟨_, h⟩ => nomatch h⟩
    | error cause' => simp [Effect.failed]

/-- **The modules at the front of a service that is registered are registered.** -/
theorem register_of_prefix (h : ∃ handle, (e.register d sink).result = some (.ok handle))
    (hid : d'.serviceId = d.serviceId)
    (hmodules : d'.modules.map (·.content) <+: d.modules.map (·.content)) :
    ∃ handle, (e.register d' sink).result = some (.ok handle) := by
  obtain ⟨modules, s, registered⟩ := register_ok_iff.1 h
  have stage := Composed.of_registerModules registered
  obtain ⟨behind, hbehind⟩ := hmodules
  obtain ⟨front, behind, hd, hfront, -⟩ := List.map_eq_append_iff.1 hbehind.symm
  rw [hd] at stage
  obtain ⟨s₁, earlier, stage⟩ := stage.before
  obtain ⟨s₀, ready, hadd⟩ := (stage.congr hid hfront.symm).gives
  exact register_ok_iff.2 ⟨earlier, s₁, gives_bind.2 ⟨0, s₀, gives_runOrRefuse.2 ready, hadd⟩⟩

/-- What comes of a registration that stops at the module at position `i`. -/
structure StopsAt (e : Engine) (d : ServiceDescriptor) (sink : Sink) (i : Nat)
    (cause : RuntimeError) (s : Store guests) : Prop where
  run : (registerModules e.regime e.control d).run (Service.freshStore d sink) =
    .value (.error cause) s
  failed : e.register d sink = .failed cause e s.data.records
  /-- The error names that module. -/
  named : ∃ md reason, d.modules[i]? = some md ∧ cause = .registration md.importName reason
  /-- No module behind it is ever begun. -/
  unreached : ∀ k s₁ earlier,
    Composed e.regime e.control d sink (d.modules.take k) s₁ earlier → k ≤ i
  loggers : s.data.loggers = (d.modules.take (i + 1)).map (·.logger d.serviceId)
  /-- Besides the control module, no module behind it has an instance. -/
  instances : s.instances.length ≤ i + 2

theorem stopsAt_of_refusedAt {i : Nat} {s : Store guests}
    (h : RefusedAt e.regime e.control d sink i cause s) : e.StopsAt d sink i cause s := by
  obtain ⟨md, s₁, earlier, hmd, stage, refused⟩ := id h
  have hlength : (d.modules.take i).length = i :=
    List.length_take_of_le (Nat.le_of_lt (List.getElem?_eq_some_iff.1 hmd).1)
  obtain ⟨n, hn, loggers, instances⟩ := counts_of_refuses stage.counts refused
  constructor
  case run => exact h.registerModules_refuses
  case failed => exact register_of_refuses h.registerModules_refuses
  case named =>
    obtain ⟨reason, hreason⟩ := (addModule_refuses refused).1
    exact ⟨md, reason, hmd, hreason⟩
  case unreached => exact fun k s₁ earlier => h.le_of_composed
  case loggers => rw [loggers, List.take_add_one, hmd, List.map_append]; rfl
  case instances => omega

/-- How an engine registers services. -/
structure InOrder (e : Engine) (sink : Sink) : Prop where
  /-- A registration fails with the control module or at one module. -/
  failed_iff : ∀ d cause, (e.register d sink).result = some (.error cause) ↔
    ∃ s, ControlRefused e.regime e.control d sink cause s ∨
      ∃ i, RefusedAt e.regime e.control d sink i cause s
  /-- What stands behind a module that is refused does not matter. -/
  stops : ∀ d d' i cause s, RefusedAt e.regime e.control d sink i cause s →
    d'.serviceId = d.serviceId →
    (d'.modules.take (i + 1)).map (·.content) = (d.modules.take (i + 1)).map (·.content) →
      e.StopsAt d' sink i cause s
  prefixes : ∀ d d', (∃ handle, (e.register d sink).result = some (.ok handle)) →
    d'.serviceId = d.serviceId → d'.modules.map (·.content) <+: d.modules.map (·.content) →
      ∃ handle, (e.register d' sink).result = some (.ok handle)

/-- **Services are registered module by module**, and the first that is refused decides. -/
theorem inOrder (e : Engine) (sink : Sink) : e.InOrder sink where
  failed_iff d cause := by
    rw [register_failed_iff]
    exact exists_congr fun s => registerModules_refuses_iff
  stops d d' i cause s h hid hmodules := stopsAt_of_refusedAt (h.congr hid hmodules)
  prefixes d d' := register_of_prefix

/-- Whatever stands behind an empty file, that file is refused. -/
example (md : ModuleDescriptor) : ∃ reason,
    (({ regime := {}, control := {} } : Engine).register
      ⟨"s", [⟨"n", .owned [], {}⟩, md], none⟩ .total).result =
        some (.error (.registration "n" reason)) :=
  ⟨_, rfl⟩

end Engine

end ModuleHost
