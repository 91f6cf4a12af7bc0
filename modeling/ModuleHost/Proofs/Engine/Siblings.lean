import ModuleHost.Proofs.Engine.Confinement
import ModuleHost.Proofs.Engine.Delivery
import ModuleHost.Proofs.Engine.Exchanges
import ModuleHost.Proofs.Engine.Logging

/-!
# Modules behind one another

The modules of a service call modules before them and no others. A sibling call reaches the very
instance that was checked when the calling module was linked, and no module touches the memory of
those behind it if they are secluded.

* `forwardTo`, `Resolved` — a sibling call without any lookup, and one that comes down to it;
* **`Provides.resolved`**: a sibling call that is provided for comes down to one function;
* `Exchange.Hits`, `Composed.hits` — a sibling call meets its target, also during the registration;
* `Running` — a store of a service in which guest code runs; `Running.backwards`,
  `Running.guarded`, `Running.linked`;
* `Service.Descends` — what follows for a service;
* **`Service.descends`**: every service that is registered has it;
* `Service.exposes_sharing` — a service whose modules share a table.
-/

namespace ModuleHost

open Wasm (Word Store Run Instance Extern Regime Module)

/-! ## Sibling calls -/

/-- A sibling call to the function at a place: no name is looked up. -/
def forwardTo (module function : String) (home : Nat) (a : Allocator) (place : Nat)
    (call : GuestCall) (caller : Option Nat) (input inputLength pointerSlot lengthSlot : Word) :
    Guest Int32 := do
  note (.sibling module function (some home))
  let own ← callingAllocator caller
  let input ← readBuffer own.memory input inputLength
  match ← (runExport a call place input).attempt with
  | .error why => Run.raise (.sibling (.fault function (stopText why)))
  | .ok output =>
    answerWith own call output.bytes pointerSlot lengthSlot
    return output.status

/-- A sibling call of a name comes down to a call of one function: that it looks up names does not
matter, what it looks for is there. -/
structure Resolved (s : Store guests) (module function : String) (home place : Nat) (i : Instance)
    (a : Allocator) : Prop where
  instance_eq : s.instances[home]? = some i
  allocator_eq : Allocator.ofInstance s i = .ok a
  export_eq : exportedFunction? i function = some place
  callable : hasType s place callableType
  forwards : ∀ call caller input inputLength pointerSlot lengthSlot,
    callSibling module function call caller input inputLength pointerSlot lengthSlot s =
      forwardTo module function home a place call caller input inputLength pointerSlot lengthSlot s

section

variable {done : List ModuleDescriptor} {s s' : Store guests} {behind : Nat}
  {module function : String}

/-- A call of an export runs it if it is callable and its instance has an allocator. -/
theorem callExport_apply {target : Instance} {a : Allocator} {place : Nat}
    (hexport : exportedFunction? target function = some place)
    (htype : hasType s place callableType) (ha : Allocator.ofInstance s target = .ok a)
    (call : GuestCall) (input : Bytes) :
    callExport target call function input s =
      ((runExport a call place input).attempt >>= fun result => match result with
        | .ok output => pure (.ok output)
        | .error why => pure (.error (.fault function (stopText why)))) s := by
  have hcallable : runCallable target call place input s = runExport a call place input s := by
    unfold runCallable
    rw [Run.store_bind, if_pos htype]
    change (orRaise (Allocator.ofInstance s target) >>= fun a =>
      runExport a call place input) s = _
    rw [ha]
    rfl
  have hattempt : (runCallable target call place input).attempt s =
      (runExport a call place input).attempt s := by
    rw [Run.attempt, hcallable]
    rfl
  unfold callExport
  rw [hexport]
  change ((runCallable target call place input).attempt >>= _) s = _
  exact Run.bind_congr hattempt _

/-- **A sibling call that is provided for calls one function.** -/
theorem Provides.resolved (h : Provides done s behind module function) :
    ∃ place i a, Resolved s module function (behind + 1) place i a := by
  obtain ⟨i, place, hi, allocates, hexport, htype⟩ := h.exported
  obtain ⟨a, ha⟩ := allocates.ofInstance
  refine ⟨place, i, a, hi, ha, hexport, htype, ?_⟩
  intro call caller input inputLength pointerSlot lengthSlot
  unfold callSibling forwardTo
  rw [Run.store_bind, h.directory, note_bind, note_bind, Option.bind_some, hi]
  generalize hs₁ : noted (.sibling module function (some (behind + 1))) s = s₁
  have htype₁ : hasType s₁ place callableType := by
    rw [← hs₁]
    exact htype
  have ha₁ : Allocator.ofInstance s₁ i = .ok a := by
    rw [← hs₁]
    exact ha
  -- neither the caller's allocator nor its input changes the store
  simp only [Run.bind_apply, Tolerant.callingAllocator_apply]
  cases Allocator.ofCaller s₁ ((caller.bind (s₁.instances[·]?)).getD {}) with
  | error fault => rfl
  | ok own =>
    simp only [orRaise_ok, readBuffer_apply]
    cases bufferIn (memoryAt s₁ own.memory) input inputLength with
    | error fault => rfl
    | ok bytes =>
      simp only [orRaise_ok, callExport_apply hexport htype₁ ha₁, Run.bind_apply]
      cases (runExport a call place bytes).attempt s₁ with
      | stop why s₂ => rfl
      | value result s₂ => cases result <;> rfl

/-! ## What sibling calls meet -/

/-- A sibling call meets a function that the module of that name exports. -/
def Exchange.Hits (done : List ModuleDescriptor) (s : Store guests) : Exchange → Prop
  | .sibling module function target =>
    ∃ behind, target = some (behind + 1) ∧ Provides done s behind module function
  | _ => True

theorem Exchange.Hits.imp {done' : List ModuleDescriptor} {x : Exchange} (h : x.Hits done s)
    (imp : ∀ behind module function, Provides done s behind module function →
      Provides done' s' behind module function) : x.Hits done' s' := by
  cases x with
  | sibling module function target =>
    obtain ⟨behind, htarget, provides⟩ := h
    exact ⟨behind, htarget, imp behind module function provides⟩
  | log | parameters | allocated | freed => trivial

/-- **Every sibling call meets its function**, and none stops because a sibling is missing. -/
theorem Backwards.traced (back : Backwards done s) :
    GuestInvariant (Traced (Exchange.Hits done s) s) NeverMissing := by
  refine back.wired.traced (fun x hx => ?_) fun module function held => ?_
  · cases x with
    | sibling => exact hx.elim
    | log | parameters | allocated | freed => trivial
  · obtain ⟨behind, provides⟩ := back.every module function held
    exact ⟨behind, provides.directory, provides⟩

end

namespace Composed

variable {regime : Regime} {control : Module} {d : ServiceDescriptor} {sink : Sink}
  {done : List ModuleDescriptor} {s : Store guests} {earlier : RegisteredModules}

/-- What was met while modules were instantiated, start functions included. -/
theorem hits (h : Composed regime control d sink done s earlier) (whole : control.Whole)
    (names : (done.map (·.importName)).Nodup) : ∀ x ∈ s.data.exchanges, x.Hits done s := by
  induction h with
  | @control s ready =>
    have back := backwards_control control d sink
    have within := back.traced.rules.within_instantiate regime (.refl _)
    rw [ready] at within
    obtain ⟨added, hadded, hits⟩ := within.exchanges
    intro x hx
    rw [hadded] at hx
    exact (hits x hx).imp fun _ _ _ provides => provides.extend within.evolves.toExtends
  | @module done s s' earlier md entry before added ih =>
    obtain ⟨names, fresh⟩ := nodup_names_concat.1 names
    obtain ⟨there, stacked⟩ := before.stacked whole
    obtain ⟨m, s₂, parts, a, -, -, hchecks, -, hlink, hinstantiate, -, rfl⟩ :=
      addModule_gives.1 added
    -- when the start function runs, the new instance is there and its name is not entered yet
    have back := (before.backwards whole names).1.allocate (before.laid whole) there stacked
      before.sound hchecks hlink
    have within := back.traced.rules.within_instantiate regime (.refl _)
    rw [hinstantiate] at within
    obtain ⟨noted, hnoted, hits⟩ := within.exchanges
    have grows := extends_linked s (md.logger d.serviceId)
      (importable s.data.loggers.length m.imports) m parts
    have evolves : Extends _ s₂ := within.evolves.toExtends
    intro x hx
    change x ∈ s₂.data.exchanges at hx
    rw [hnoted] at hx
    rcases List.mem_append.1 hx with hx | hx
    · exact (ih names x hx).imp fun _ _ _ provides =>
        ((provides.extend grows).extend evolves).enter fresh entry.place
    · exact (hits x hx).imp fun _ _ _ provides =>
        (provides.extend evolves).enter fresh entry.place

end Composed

/-! ## Services -/

/-- A store of a service in which guest code runs, the modules `done` being registered. -/
inductive Running (regime : Regime) (control : Module) (d : ServiceDescriptor) (sink : Sink) :
    List ModuleDescriptor → Store guests → Prop
  /-- The control module starts. -/
  | first : Running regime control d sink [] (control.allocate [] (Service.freshStore d sink))
  /-- The next module starts. -/
  | next {done : List ModuleDescriptor} {s : Store guests} {earlier : RegisteredModules}
      {md : ModuleDescriptor} {m : Module} {parts : List Extern}
      (stage : Composed regime control d sink done s earlier) (listed : done ++ [md] <+: d.modules)
      (decoded : Module.decode? md.bytes.bytes = some m)
      (checked : checkImports (logging s (md.logger d.serviceId)) earlier m.imports = .ok ())
      (linked : m.link? (offering s (md.logger d.serviceId)
          (importable s.data.loggers.length m.imports))
        (resolveImport (s.instances.getD 0 {})
          (offered s (importable s.data.loggers.length m.imports))) = some parts) :
      Running regime control d sink done (m.allocate parts (offering s (md.logger d.serviceId)
        (importable s.data.loggers.length m.imports)))
  /-- All modules of the service are registered. -/
  | ready {s : Store guests} {modules : RegisteredModules}
      (stage : Composed regime control d sink d.modules s modules) :
      Running regime control d sink d.modules s
  /-- Guest code has run for a while. -/
  | later {done : List ModuleDescriptor} {s s' : Store guests}
      (running : Running regime control d sink done s) (evolves : Evolves s s') :
      Running regime control d sink done s'

/-- A service that is registered has a store in which guest code runs. -/
theorem Running.of_build {regime : Regime} {control : Module} {d : ServiceDescriptor} {sink : Sink}
    {service : Service}
    (built : (Service.build regime control d sink).result = some (.ok service)) :
    Running regime control d sink d.modules service.store := by
  obtain ⟨stage, hstore⟩ := Service.stage_of_build built
  have evolves : Evolves _ service.store := hstore ▸ Evolves.settled (.refl _)
  exact (Running.ready stage).later evolves

/-- **Where guest code runs, sibling calls go backwards.** -/
theorem Running.backwards {regime : Regime} {control : Module} {d : ServiceDescriptor} {sink : Sink}
    {done : List ModuleDescriptor} {s : Store guests}
    (h : Running regime control d sink done s) (whole : control.Whole)
    (names : (d.modules.map (·.importName)).Nodup) : Backwards done s ∧ Stacked s := by
  induction h with
  | first => exact ⟨Composed.backwards_control control d sink, (Composed.stacked_control whole).2⟩
  | next stage listed decoded checked linked =>
    obtain ⟨there, stacked⟩ := stage.stacked whole
    have names := (nodup_names_concat.1 (names.sublist (listed.sublist.map _))).1
    have back := (stage.backwards whole names).1
    exact ⟨back.allocate (stage.laid whole) there stacked stage.sound checked linked,
      stacked.allocate linked there⟩
  | ready stage =>
    exact ⟨(stage.backwards whole names).1, (stage.stacked whole).2⟩
  | later running evolves ih =>
    obtain ⟨back, stacked⟩ := ih
    exact ⟨back.evolve evolves, stacked.evolve evolves⟩

/-- **Where guest code runs, the instances of secluded modules share no table.** -/
theorem Running.guarded {regime : Regime} {control : Module} {d : ServiceDescriptor} {sink : Sink}
    {done : List ModuleDescriptor} {s : Store guests}
    (h : Running regime control d sink done s) (whole : control.Whole) :
    Guarded d.modules s ∧ s.instances.length ≤ d.modules.length + 1 := by
  induction h with
  | first =>
    refine ⟨⟨(Composed.stacked_control whole).2, (Composed.supplied_control control).2, ?_⟩,
      Nat.succ_le_succ (Nat.zero_le _)⟩
    rintro (_ | position) hsecluded
    · cases hsecluded
    · exact fun inst i name hinst => nomatch hinst
  | @next done s earlier md m parts stage listed decoded checked linked =>
    obtain ⟨there, stacked⟩ := stage.stacked whole
    obtain ⟨aimed, supplied⟩ := stage.supplied whole
    have count := (stage.laid whole).count
    have hlength := listed.length_le
    rw [List.length_append, List.length_singleton] at hlength
    refine ⟨⟨stacked.allocate linked there, (supplied.link there stacked linked aimed).2, ?_⟩, ?_⟩
    · intro home hsecluded inst i name hinst
      have hbound : home < done.length + 2 := by
        have := (List.getElem?_eq_some_iff.1 hinst).1
        rwa [Module.allocate, List.length_append, List.length_singleton, offering, count] at this
      rw [← secludes_of_prefix listed (by rw [List.length_append]; exact Nat.le_of_lt_succ hbound)]
        at hsecluded
      exact Secluded.link there stacked linked (stage.secluded whole) count decoded hsecluded inst i
        name hinst
    · show (s.instances ++ [m.newInstance _ parts]).length ≤ _
      rw [List.length_append, List.length_singleton, count]
      omega
  | ready stage => exact ⟨stage.guarded whole, Nat.le_of_eq (stage.laid whole).count⟩
  | later running evolves ih =>
    obtain ⟨guarded, count⟩ := ih
    exact ⟨guarded.evolve evolves, evolves.instances ▸ count⟩

/-- The modules behind a position are secluded. -/
def ServiceDescriptor.SecludedAfter (d : ServiceDescriptor) (position : Nat) : Prop :=
  ∀ (i : Nat) md, position < i → d.modules[i]? = some md → md.isSecluded

theorem ServiceDescriptor.SecludedAfter.behind {d : ServiceDescriptor} {position : Nat}
    (h : d.SecludedAfter position) {s : Store guests}
    (count : s.instances.length ≤ d.modules.length + 1) :
    SecludedBehind d.modules s (position + 1) := by
  intro i hlt hbound
  obtain ⟨i, rfl⟩ : ∃ j, i = j + 1 := ⟨i - 1, by omega⟩
  obtain ⟨md, hmd⟩ : ∃ md, d.modules[i]? = some md :=
    ⟨_, List.getElem?_eq_getElem (by omega : i < d.modules.length)⟩
  rw [secludes, hmd]
  exact h i md (Nat.lt_of_succ_lt_succ hlt) hmd

/-- The functions that files import from siblings are sibling calls in their instances. -/
theorem Running.linked {regime : Regime} {control : Module} {d : ServiceDescriptor} {sink : Sink}
    {done : List ModuleDescriptor} {s : Store guests}
    (h : Running regime control d sink done s) (whole : control.Whole)
    {position : Nat} {md : ModuleDescriptor} {m : Module} {k : Nat} {i : Wasm.Import}
    {inst : Instance} (hmd : d.modules[position]? = some md)
    (hdecode : Module.decode? md.bytes.bytes = some m) (hi : m.functionImports[k]? = some i)
    (hsibling : isSiblingImport i) (hinst : s.instances[position + 1]? = some inst) :
    ∃ place, inst.functions[k]? = some place ∧
      s.functions[place]? = some (.host callableType (.sibling i.module i.name)) := by
  induction h with
  | first => cases hinst
  | @next done s earlier md' m' parts stage listed decoded checked linked =>
    have count := (stage.laid whole).count
    obtain ⟨rest, hrest⟩ := listed
    rcases Module.instances_allocate hinst with hold | ⟨hnew, rfl⟩
    · have hlt : position < done.length := by
        have := (List.getElem?_eq_some_iff.1 hold).1
        change position + 1 < s.instances.length at this
        omega
      have hdone : done[position]? = some md := by
        rw [← hmd, ← hrest, List.append_assoc, List.getElem?_append_left hlt]
      obtain ⟨inst', place, hinst', hplace, hfunction⟩ :=
        stage.imported whole hdone hdecode hi hsibling
      obtain rfl : inst' = inst := Option.some.inj (hinst'.symm.trans hold)
      have grows := extends_linked s (md'.logger d.serviceId)
        (importable s.data.loggers.length m'.imports) m' parts
      exact ⟨place, hplace, grows.getElem?_functions hfunction⟩
    · -- the module that starts
      obtain rfl : position = done.length := by
        change position + 1 = s.instances.length at hnew
        omega
      have hlast : d.modules[done.length]? = some md' := by
        rw [← hrest, List.append_assoc, List.getElem?_append_right (Nat.le_refl _), Nat.sub_self]
        rfl
      obtain rfl : md' = md := Option.some.inj (hlast.symm.trans hmd)
      obtain rfl : m' = m := Option.some.inj (decoded.symm.trans hdecode)
      exact sibling_of_link linked hi hsibling
  | ready stage =>
    obtain ⟨inst', place, hinst', hplace, hfunction⟩ :=
      stage.imported whole hmd hdecode hi hsibling
    obtain rfl : inst' = inst := Option.some.inj (hinst'.symm.trans hinst)
    exact ⟨place, hplace, hfunction⟩
  | later running evolves ih =>
    rw [evolves.instances] at hinst
    rw [evolves.functions]
    exact ih hinst

/-- The sibling calls of a service go to modules before. -/
structure Service.Descends (regime : Regime) (control : Module) (d : ServiceDescriptor)
    (sink : Sink) (service : Service) : Prop where
  /-- The module at a position is registered with the instance that has as many others before it,
  that of the control module not counted. -/
  placed : ∀ (position : Nat) md, d.modules[position]? = some md →
    ∃ m, service.modules.get? md.importName = some m ∧ m.place = position + 1
  /-- What a file imports from a sibling, the instance of a module before exports. -/
  imports : Imports d.modules service.store
  /-- Guest code runs while the service is registered, and whenever its functions are called. -/
  runs : Running regime control d sink d.modules service.store
  started : ∀ done s home segments, Running regime control d sink done s →
    Running regime control d sink done (Module.placeData home segments s).store
  called : ∀ done s stack caller place arguments, Running regime control d sink done s →
    Running regime control d sink done
      (Wasm.invoke hostFunctions regime stack caller place arguments s).store
  invoked : ∀ s m function arguments parameters, Running regime control d sink d.modules s →
    Running regime control d sink d.modules
      (callModule regime m function arguments parameters s).store
  /-- The function that a file imports from a sibling is a sibling call in its instance, -/
  linked : ∀ done s (position : Nat) md m (k : Nat) i inst, Running regime control d sink done s →
    d.modules[position]? = some md → Module.decode? md.bytes.bytes = some m →
    m.functionImports[k]? = some i → isSiblingImport i → s.instances[position + 1]? = some inst →
      ∃ place, inst.functions[k]? = some place ∧
        s.functions[place]? = some (.host callableType (.sibling i.module i.name))
  /-- and every sibling call of an instance calls one function of a module before. -/
  resolved : ∀ done s (position : Nat) inst place type module function,
    Running regime control d sink done s → s.instances[position + 1]? = some inst →
    place ∈ inst.functions → s.functions[place]? = some (.host type (.sibling module function)) →
      ∃ behind < position, Provides done s behind module function ∧
        ∃ place i a, Resolved s module function (behind + 1) place i a
  /-- Whatever calls a sibling, also a function that code finds in a table, calls one function of a
  module that is registered. -/
  provided : ∀ done s (place : Nat) type module function, Running regime control d sink done s →
    s.functions[place]? = some (.host type (.sibling module function)) →
      ∃ behind, Provides done s behind module function ∧
        ∃ place i a, Resolved s module function (behind + 1) place i a
  /-- Every sibling call met its target, also those of start functions. -/
  registered : ∀ x ∈ (registering regime control d sink).data.exchanges,
    x.Hits d.modules service.store
  traced : ∀ done s stack caller place arguments, Running regime control d sink done s →
    (Wasm.invoke hostFunctions regime stack caller place arguments s).Within
      (Traced (Exchange.Hits done s) s) NeverMissing
  /-- If the modules behind a position are secluded, the functions of the module there and of those
  before leave alone what the modules behind own. -/
  confined : ∀ done s (position i : Nat) inst place stack caller arguments,
    Running regime control d sink done s → d.SecludedAfter position → i ≤ position + 1 →
    s.instances[i]? = some inst → place ∈ inst.functions →
    (∀ j, caller = some j → j ≤ position + 1) →
      Confined s (position + 1)
        (Wasm.invoke hostFunctions regime stack caller place arguments s).store
  exported : ∀ done s (position i : Nat) inst stack function input,
    Running regime control d sink done s → d.SecludedAfter position → i ≤ position + 1 →
    s.instances[i]? = some inst →
      Confined s (position + 1)
        (callExport inst (Wasm.invoke hostFunctions regime stack none) function input s).store

/-- **The sibling calls of a registered service go to modules before.** -/
theorem Service.descends {regime : Regime} {bytes : Bytes} {e : Engine}
    (compiled : Engine.compile regime bytes = .ok e) {id : String} {modules : ModuleSet}
    {config : Option ServiceConfig} {envs : Option Envs} {d : ServiceDescriptor}
    (resolved : ServiceDescriptor.resolve id modules config envs = .ok d) {sink : Sink}
    {service : Service} (built : (build e.regime e.control d sink).result = some (.ok service)) :
    service.Descends e.regime e.control d sink := by
  have whole := Engine.compile_whole compiled
  have names := ServiceDescriptor.nodup_names resolved
  obtain ⟨stage, hstore⟩ := stage_of_build built
  have evolves : Evolves _ service.store := hstore ▸ Evolves.settled (.refl _)
  obtain ⟨back, imports⟩ := stage.backwards whole names
  have rules {done : List ModuleDescriptor} {s : Store guests}
      (h : Running e.regime e.control d sink done s) :=
    (h.backwards whole names).1.traced.rules
  constructor
  case placed => exact fun position md hmd => stage.placed whole names hmd
  case imports =>
    intro position md m i hmd hdecode hi hsibling
    obtain ⟨behind, hlt, provides⟩ := imports position md m i hmd hdecode hi hsibling
    exact ⟨behind, hlt, provides.extend evolves.toExtends⟩
  case runs => exact .of_build built
  case started =>
    intro done s home segments h
    exact h.later (Wasm.keeps_placeData ((rules h).steady.within home) (rules h).lenient segments s
      (.refl s)).store.evolves
  case called =>
    intro done s stack caller place arguments h
    have confined := (rules h).confined
    exact h.later (Wasm.keeps_invoke confined.lenient confined.inside confined.keep_hostFunctions
      e.regime stack caller place arguments trivial s (.refl s)).store.evolves
  case invoked =>
    intro s m function arguments parameters h
    exact h.later ((rules h).keeps_callModule (fun _ _ hs => ⟨{ hs.evolves with }, hs.exchanges⟩)
      e.regime m function arguments parameters s (.refl s)).store.evolves
  case linked =>
    intro done s position md m k i inst h hmd hdecode hi hsibling hinst
    exact h.linked whole hmd hdecode hi hsibling hinst
  case resolved =>
    intro done s position inst place type module function h hinst hplace held
    obtain ⟨back, -⟩ := h.backwards whole names
    obtain ⟨behind, hlt, provides⟩ :=
      back.calls (position + 1) inst place type module function hinst hplace held
    exact ⟨behind, by omega, provides, provides.resolved⟩
  case registered =>
    intro x hx
    exact (stage.hits whole names x hx).imp fun _ _ _ provides => provides.extend evolves.toExtends
  case traced =>
    intro done s stack caller place arguments h
    have confined := (rules h).confined
    exact Wasm.keeps_invoke confined.lenient confined.inside confined.keep_hostFunctions e.regime
      stack caller place arguments trivial s (.refl s)
  case provided =>
    intro done s place type module function h held
    obtain ⟨behind, provides⟩ :=
      (h.backwards whole names).1.every module function ⟨type, List.mem_of_getElem? held⟩
    exact ⟨behind, provides, provides.resolved⟩
  case confined =>
    intro done s position i inst place stack caller arguments h secluded hi hinst hplace hcaller
    obtain ⟨guarded, count⟩ := h.guarded whole
    exact (h.backwards whole names).1.confined_invoke guarded (secluded.behind count) e.regime stack
      hi hinst hplace hcaller arguments
  case exported =>
    intro done s position i inst stack function input h secluded hi hinst
    obtain ⟨guarded, count⟩ := h.guarded whole
    exact (h.backwards whole names).1.confined_callExport guarded (secluded.behind count) e.regime
      stack hi hinst function input

/-- A module that exports the function `e` of a module `m` as `g`, and as `f` one that calls it. -/
def relay : Bytes :=
  [0, 97, 115, 109, 1, 0, 0, 0, 1, 14, 2, 96, 1, 127, 1, 127, 96, 4, 127, 127, 127, 127, 1, 127,
    2, 7, 1, 1, 109, 1, 101, 0, 1, 3, 3, 2, 0, 1, 5, 3, 1, 0, 1, 6, 8, 1, 127, 1, 65, 128, 192,
    0, 11, 7, 29, 4, 6, 109, 101, 109, 111, 114, 121, 2, 0, 8, 97, 108, 108, 111, 99, 97, 116,
    101, 0, 1, 1, 103, 0, 0, 1, 102, 0, 2, 10, 26, 2, 11, 0, 35, 0, 35, 0, 32, 0, 106, 36, 0,
    11, 12, 0, 32, 0, 32, 1, 32, 2, 32, 3, 16, 0, 11, 0, 87, 15, 105, 110, 116, 101, 114, 102,
    97, 99, 101, 45, 116, 121, 112, 101, 115, 123, 34, 102, 117, 110, 99, 116, 105, 111, 110,
    115, 34, 58, 91, 123, 34, 110, 97, 109, 101, 34, 58, 34, 103, 34, 44, 34, 112, 97, 114, 97,
    109, 115, 34, 58, 91, 34, 97, 34, 93, 125, 44, 123, 34, 110, 97, 109, 101, 34, 58, 34, 102,
    34, 44, 34, 112, 97, 114, 97, 109, 115, 34, 58, 91, 34, 97, 34, 93, 125, 93, 125]

/-- The settings of a module without any. -/
def plainSettings : ModuleConfig := ModuleConfig.resolveEnvs {} none

/-- A service of that module behind one whose function `e` returns its arguments. -/
def relayed : ServiceDescriptor :=
  ⟨"s", [⟨"m", .owned Registry.echo, plainSettings⟩, ⟨"n", .owned relay, plainSettings⟩], none⟩

theorem resolve_relayed : ServiceDescriptor.resolve "s"
    [("m", .owned Registry.echo), ("n", .owned relay)] none none = .ok relayed := by
  decide +kernel

theorem exists_build_of_isSome {d : ServiceDescriptor} {control : Module}
    (h : ((Service.build {} control d .total).result.bind (·.toOption)).isSome) :
    ∃ service, (Service.build {} control d .total).result = some (.ok service) := by
  obtain ⟨service, hservice⟩ := Option.isSome_iff_exists.1 h
  obtain ⟨result, hresult, hok⟩ := Option.bind_eq_some_iff.1 hservice
  cases result with
  | error cause => cases hok
  | ok service' =>
    cases hok
    exact ⟨service, hresult⟩

theorem exists_build_relayed : ∃ service,
    (Service.build {} {} relayed .total).result = some (.ok service) :=
  exists_build_of_isSome (by decide +kernel)

/-- The store of a service that registers, with a control module that exports nothing if no other
is given. -/
def standing (d : ServiceDescriptor) (control : Module := {}) : Store guests :=
  match (Service.build {} control d .total).result with
  | some (.ok service) => service.store
  | _ => Service.freshStore d .total

theorem standing_of_build {d : ServiceDescriptor} {control : Module} {service : Service}
    (built : (Service.build {} control d .total).result = some (.ok service)) :
    standing d control = service.store := by
  rw [standing, built]

theorem secludedAfter_relayed : relayed.SecludedAfter 0 := by
  have secluded : relayed.modules.tail.all (·.isSecluded) := by decide +kernel
  intro i md hi hmd
  obtain ⟨i, rfl⟩ : ∃ j, i = j + 1 := ⟨i - 1, by omega⟩
  have htail : relayed.modules.tail[i]? = some md := by rwa [List.getElem?_tail]
  exact List.all_eq_true.1 secluded md (List.mem_of_getElem? htail)

theorem Service.descends_relayed : ∃ (e : Engine) (service : Service),
    Engine.compile {} [0, 97, 115, 109, 1, 0, 0, 0] = .ok e ∧
      ServiceDescriptor.resolve "s" [("m", .owned Registry.echo), ("n", .owned relay)] none none =
        .ok relayed ∧
      (build e.regime e.control relayed .total).result = some (.ok service) ∧
      service.Descends e.regime e.control relayed .total ∧ relayed.SecludedAfter 0 := by
  have compiled : Engine.compile {} [0, 97, 115, 109, 1, 0, 0, 0] =
      .ok { regime := {}, control := {} } := rfl
  obtain ⟨service, built⟩ := exists_build_relayed
  exact ⟨_, service, compiled, resolve_relayed, built, descends compiled resolve_relayed built,
    secludedAfter_relayed⟩

theorem exists_build_sharing : ∃ service,
    (Service.build {} tabledControl sharing .total).result = some (.ok service) :=
  exists_build_of_isSome (by decide +kernel)

theorem instances_sharing : (standing sharing tabledControl).instances =
    [{ tables := [0], exports := [("t", .table 0)] },
      { functions := [2, 3]
        tables := [0]
        memories := [0]
        globals := [0]
        exports := [("memory", .memory 0), ("allocate", .func 2), ("f", .func 3)] },
      { functions := [4, 6, 7, 8, 9, 10]
        tables := [0]
        memories := [1]
        globals := [1]
        exports := [("memory", .memory 1), ("allocate", .func 7), ("g", .func 9),
          ("p", .func 10)] }] := by
  decide +kernel

theorem owns_sharing {home place : Nat} {inst : Instance}
    (hinst : (standing sharing tabledControl).instances[home]? = some inst)
    (hplace : place ∈ inst.memories) :
    Owns (standing sharing tabledControl) home (.memory place) := by
  refine ⟨⟨inst, hinst, hplace⟩, fun name => ?_⟩
  rw [instances_sharing]
  intro hexport
  change List.lookup name [("t", Extern.table 0)] = _ at hexport
  rw [List.lookup_cons] at hexport
  split at hexport <;> cases hexport

/-- **Through a table that they share, a module changes what a module behind it owns.** -/
theorem Service.exposes_sharing : ∃ (e : Engine) (service : Service) (inst : Instance),
    Engine.compile {} tabled = .ok e ∧
      ServiceDescriptor.resolve "s" [("m", .owned borrowing), ("n", .owned lending)] none
        (some (Dict.empty.insert logVariable "n=trace")) = .ok sharing ∧
      (build e.regime e.control sharing .total).result = some (.ok service) ∧
      service.store.instances[1]? = some inst ∧ Owns service.store 2 (.memory 1) ∧
      (memoryAt service.store 1).get 32 = 48 ∧
      (memoryAt (callExport inst (Wasm.invoke hostFunctions e.regime e.regime.stack none) "f" []
        service.store).store 1).get 32 = 49 := by
  obtain ⟨service, built⟩ := exists_build_sharing
  have hstanding := standing_of_build built
  refine ⟨_, service, (standing sharing tabledControl).instances.getD 1 {}, compile_tabled,
    resolve_sharing, built, ?_⟩
  rw [← hstanding]
  exact ⟨by rw [instances_sharing]; rfl, owns_sharing (by rw [instances_sharing]; rfl) (by decide),
    by decide +kernel, by decide +kernel⟩

end ModuleHost
