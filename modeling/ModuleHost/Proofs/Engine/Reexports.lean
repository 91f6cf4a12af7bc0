import ModuleHost.Proofs.Engine.Completion
import ModuleHost.Proofs.Engine.Refusal
import ModuleHost.Proofs.Engine.Siblings
import ModuleHost.Proofs.Wasm.Typing

/-!
# Functions that a facade passes on

A module can export the very function that it imports from a sibling. If the host calls that
export, no guest code stands between the host and the sibling call. The sibling call then finds no
memory to take its input from and fails, before the sibling is run.

* `callSibling_of_host` — a sibling call that the host itself makes fails;
* `handOver`, `runExport_of_stop` — the host hands over the input; a function that stops then ends
  the call;
* `ServiceDescriptor.Reexports` — a facade exports a function that it imports;
* `Composed.reexported`, `Service.passes_on` — what such an export leads to;
* `Backwards.stops_handed` — once the input is handed over, the call stops;
* **`Service.reexport_fails`**: a call of such an export never completes.
-/

namespace ModuleHost

open Wasm (Word Store Run Instance Extern Regime Module Ended)

/-! ## Calls by the host -/

/-- A sibling call that the host itself makes fails: there is no caller with a memory. -/
theorem callSibling_of_host {s : Store guests} {module : String} {target : Instance}
    (h : (s.data.directory.get? module).bind (s.instances[·]?) = some target) (function : String)
    (call : GuestCall) (input inputLength pointerSlot lengthSlot : Word) :
    callSibling module function call none input inputLength pointerSlot lengthSlot s =
      .stop (.raised .noMemory)
        (noted (.sibling module function (s.data.directory.get? module)) s) := by
  unfold callSibling
  rw [Run.store_bind, note_bind, h]
  rfl

/-- The host hands over the input of a call and two slots for its output. -/
def handOver (a : Allocator) (call : GuestCall) (input : Bytes) : Guest (Word × Word × Word) := do
  let inputAt ← a.write call input
  let slots ← a.write call emptySlots
  let lengthSlot ← Run.orStop .broken (slotBehind? slots)
  return (inputAt, slots, lengthSlot)

/-- The host takes the output of a call over and hands the buffers back. -/
def takeOver (a : Allocator) (call : GuestCall) (inputAt length slots lengthSlot : Word)
    (results : List Word) : Guest RawOutput := do
  let outputAt ← readSlot a.memory slots
  let outputLength ← readSlot a.memory lengthSlot
  let bytes ← readBuffer a.memory outputAt outputLength
  if 0 < outputLength.toInt32 then a.free call outputAt outputLength
  a.free call slots 8
  a.free call inputAt length
  return ⟨(results.headD 0).toInt32, bytes⟩

/-- A call of an export: the input is handed over, the function runs, the output is taken over. -/
theorem runExport_apply (a : Allocator) (call : GuestCall) (function : Nat) (input : Bytes)
    (s : Store guests) :
    runExport a call function input s = match handOver a call input s with
      | .value (inputAt, slots, lengthSlot) s₁ =>
        (call function [inputAt, UInt32.ofNat input.length, slots, lengthSlot] >>=
          takeOver a call inputAt (UInt32.ofNat input.length) slots lengthSlot) s₁
      | .stop why s₁ => .stop why s₁ := by
  -- the call and the takeover stay closed: they are the same on both sides
  have parts : runExport a call function input = (do
      let inputAt ← a.write call input
      let slots ← a.write call emptySlots
      let lengthSlot ← Run.orStop .broken (slotBehind? slots)
      call function [inputAt, UInt32.ofNat input.length, slots, lengthSlot] >>=
        takeOver a call inputAt (UInt32.ofNat input.length) slots lengthSlot) := rfl
  rw [parts]
  unfold handOver
  rw [Run.bind_apply, Run.bind_apply]
  cases a.write call input s with
  | stop why s₁ => rfl
  | value inputAt s₁ =>
    simp only [Run.bind_apply _ _ s₁]
    cases a.write call emptySlots s₁ with
    | stop why s₂ => rfl
    | value slots s₂ =>
      simp only [Run.bind_apply _ _ s₂]
      cases (Run.orStop .broken (slotBehind? slots) : Guest Word) s₂ with
      | stop why s₃ => rfl
      | value lengthSlot s₃ => rfl

section

variable {a : Allocator} {call : GuestCall} {function : Nat} {input : Bytes} {s : Store guests}

/-- A function that stops ends the call once the input is handed over. -/
theorem runExport_of_stop {handed : Word × Word × Word} {s₁ s₂ : Store guests} {why : GuestStop}
    (hhanded : handOver a call input s = .value handed s₁)
    (stops : call function [handed.1, UInt32.ofNat input.length, handed.2.1, handed.2.2] s₁ =
      .stop why s₂) : runExport a call function input s = .stop why s₂ := by
  rw [runExport_apply, hhanded]
  show (call function _ >>= _) s₁ = _
  rw [Run.bind_apply, stops]

theorem runExport_stops (stops : ∀ handed s₁, handOver a call input s = .value handed s₁ →
      ∃ why s₂, call function [handed.1, UInt32.ofNat input.length, handed.2.1, handed.2.2] s₁ =
        .stop why s₂) : ∃ why s₂, runExport a call function input s = .stop why s₂ := by
  cases hhanded : handOver a call input s with
  | stop why s₁ => exact ⟨why, s₁, by rw [runExport_apply, hhanded]⟩
  | value handed s₁ =>
    obtain ⟨why, s₂, hstop⟩ := stops handed s₁ hhanded
    exact ⟨why, s₂, runExport_of_stop hhanded hstop⟩

theorem GuestRules.keeps_handOver {May : Wasm.Calls} {P : Store guests → Prop}
    {Q : GuestStop → Prop} (rules : GuestRules May P Q) (regime : Regime) (stack : Nat)
    (a : Allocator) (input : Bytes) :
    Run.Keeps P Q (handOver a (Wasm.invoke hostFunctions regime stack none) input) := by
  have calls := rules.confined.keeps_invoke regime stack
  refine (rules.confined.keeps_write calls (rules.usable a) input).bind fun inputAt => ?_
  refine (rules.confined.keeps_write calls (rules.usable a) emptySlots).bind fun slots => ?_
  exact (Run.Keeps.of_orStop rules.broken _).bind fun lengthSlot => .of_pure _

end

/-! ## Facades -/

/-- The facade of a service exports under a name a function that its file imports from a sibling. -/
structure ServiceDescriptor.Reexports (d : ServiceDescriptor) (name : String) (i : Wasm.Import) :
    Prop where
  sibling : isSiblingImport i
  exported : ∃ md m k, d.facade? = some md ∧ Module.decode? md.bytes.bytes = some m ∧
    m.functionImports[k]? = some i ∧ ⟨name, .func, k⟩ ∈ m.exports

/-- Such an export leads to the sibling call. -/
theorem Composed.reexported {regime : Regime} {control : Module} {d : ServiceDescriptor}
    {sink : Sink} {s : Store guests} {modules : RegisteredModules}
    (h : Composed regime control d sink d.modules s modules) (whole : control.Whole)
    (names : (d.modules.map (·.importName)).Nodup) {name : String} {i : Wasm.Import}
    (reexports : d.Reexports name i) {facade : String} (hfacade : d.facadeName? = some facade) :
    ∃ entry inst place, modules.get? facade = some entry ∧
      s.instances[entry.place]? = some inst ∧ exportedFunction? inst name = some place ∧
      s.functions[place]? = some (.host callableType (.sibling i.module i.name)) := by
  obtain ⟨md, m, k, hmd, hdecode, hi, hexport⟩ := reexports.exported
  obtain rfl : md.importName = facade := by
    rw [ServiceDescriptor.facadeName?, hmd, Option.map_some] at hfacade
    exact Option.some.inj hfacade
  rw [ServiceDescriptor.facade?, List.getLast?_eq_getElem?] at hmd
  obtain ⟨entry, hentry, hplace⟩ := h.placed whole names hmd
  obtain ⟨s₀, parts, hlink, hinst, more, hmore⟩ := h.origin whole hmd hdecode
  obtain ⟨place, hnumber, hfunction⟩ := sibling_of_link hlink hi reexports.sibling
  refine ⟨entry, _, place, hentry, hplace ▸ hinst, ?_, ?_⟩
  · have hfound := Module.export?_newInstance (Wasm.Module.valid_of_decode? hdecode) hexport
      (Option.map_eq_some_iff.2 ⟨place, hnumber, rfl⟩)
    rw [exportedFunction?, hfound]
  · rw [← hmore]
    exact Wasm.getElem?_append_of_some hfunction

section

variable {regime : Regime} {s : Store guests} {target inst : Instance} {place : Nat}
  {module function name : String} {a : Allocator} {input : Bytes}

/-- The host's call of a function that is a sibling call stops, in the end because there is no
memory. -/
theorem invoke_sibling_stops
    (held : s.functions[place]? = some (.host callableType (.sibling module function)))
    (htarget : (s.data.directory.get? module).bind (s.instances[·]?) = some target)
    (stack : Nat) (input inputLength pointerSlot lengthSlot : Word) :
    Wasm.invoke hostFunctions regime stack none place
        [input, inputLength, pointerSlot, lengthSlot] s =
      if stack < Wasm.crossingBytes then .stop .trap s
      else .stop (.raised .noMemory)
        (noted (.sibling module function (s.data.directory.get? module)) s) := by
  rw [Wasm.invoke_of_host held]
  refine ite_congr rfl (fun _ => rfl) fun _ => ?_
  show (callSibling module function _ none input inputLength pointerSlot lengthSlot >>= _) s = _
  rw [Run.bind_apply, callSibling_of_host htarget]

/-- How the stop of a function that is called by name is told. -/
def toldStop (name : String) (s : Store guests) :
    GuestStop → Ended guests (Except GuestError RawOutput)
  | .broken => .stop .broken s
  | .endless => .stop .endless s
  | why => .value (.error (.fault name (stopText why))) s

/-- A call of an export whose function stops is told as a fault, unless the host breaks down or
code does not end. -/
theorem callExport_of_stop {call : GuestCall} {why : GuestStop} {s₁ : Store guests}
    (hexport : exportedFunction? inst name = some place) (htype : hasType s place callableType)
    (ha : Allocator.ofInstance s inst = .ok a)
    (stops : runExport a call place input s = .stop why s₁) :
    callExport inst call name input s = toldStop name s₁ why := by
  rw [callExport_apply hexport htype ha, Run.bind_apply, Run.attempt, stops]
  cases why <;> rfl

end

/-! ## Calls of services -/

/-- The store with the parameters of a call in place. -/
def equipped (s : Store guests) (parameters : CallParameters) : Store guests :=
  { s with data := { s.data with parameters := parameters } }

/-- A call of a function that a facade passes on stops before it completes. -/
theorem Service.callModule_told {regime : Regime} {s : Store guests} {m : RegisteredModule}
    {inst : Instance} {a : Allocator} {place : Nat} {name ordered : String} {why : GuestStop}
    {parameters : CallParameters} {s₁ : Store guests}
    (hinst : s.instances[m.place]? = some inst)
    (hexport : exportedFunction? inst name = some place) (htype : hasType s place callableType)
    (ha : Allocator.ofInstance s inst = .ok a)
    (stops : runExport a (Wasm.invoke hostFunctions regime regime.stack none) place
      (Text.bytes ordered) (equipped s parameters) = .stop why s₁) :
    callModule regime m name ordered parameters s =
      match toldStop name s₁ why with
      | .value called s₂ => .value called (equipped s₂ {})
      | .stop why s₂ => .stop why s₂ := by
  have hcall : callModule regime m name ordered parameters s =
      (callExport (s.instances.getD m.place {})
          (Wasm.invoke hostFunctions regime regime.stack none) name (Text.bytes ordered) >>=
        fun called => setParameters {} >>= fun _ => pure called) (equipped s parameters) := rfl
  have htype' : hasType (equipped s parameters) place callableType := htype
  have ha' : Allocator.ofInstance (equipped s parameters) inst = .ok a := ha
  rw [hcall, List.getD_eq_getElem?_getD, hinst, Option.getD_some, Run.bind_apply,
    callExport_of_stop hexport htype' ha' stops]
  cases why <;> rfl

theorem Service.modules_of_prepare {service : Service} {module function arguments : String}
    {m : RegisteredModule} {ordered : String}
    (h : service.prepare module function arguments = .ok (m, ordered)) :
    service.modules.get? module = some m := by
  unfold prepare at h
  split at h
  · cases h
  · next m' hm =>
    split at h
    · cases h
    · split at h
      · cases h
      · cases h
        exact hm

/-- Once the input is handed over, the host's call of a sibling call stops. -/
theorem Backwards.stops_handed {done : List ModuleDescriptor} {s s₁ : Store guests}
    (back : Backwards done s) {place : Nat} {module function : String}
    (held : s.functions[place]? = some (.host callableType (.sibling module function)))
    (regime : Regime) {a : Allocator} {input : Bytes} {parameters : CallParameters}
    {handed : Word × Word × Word}
    (hhanded : handOver a (Wasm.invoke hostFunctions regime regime.stack none) input
      (equipped s parameters) = .value handed s₁) :
    Wasm.invoke hostFunctions regime regime.stack none place
        [handed.1, UInt32.ofNat input.length, handed.2.1, handed.2.2] s₁ =
      if regime.stack < Wasm.crossingBytes then .stop .trap s₁
      else .stop (.raised .noMemory)
        (noted (.sibling module function (s₁.data.directory.get? module)) s₁) := by
  obtain ⟨behind, provides⟩ := back.every module function ⟨_, List.mem_of_getElem? held⟩
  obtain ⟨target, -, htarget, -⟩ := provides.exported
  -- what ran while the input was handed over leaves functions and instances
  have begun : Evolves s (equipped s parameters) := { Evolves.refl s with }
  have kept := (back.evolve begun).traced.rules.keeps_handOver regime regime.stack a input _
    (.refl _)
  rw [hhanded] at kept
  have arrived : Evolves s s₁ := begun.trans kept.evolves
  have hleads : (s₁.data.directory.get? module).bind (s₁.instances[·]?) = some target := by
    rw [arrived.directory, provides.directory, Option.bind_some, arrived.instances, htarget]
  rw [← arrived.functions] at held
  exact invoke_sibling_stops held hleads regime.stack _ _ _ _

section

variable {regime : Regime} {bytes : Bytes} {e : Engine}
  (compiled : Engine.compile regime bytes = .ok e) {id : String} {modules : ModuleSet}
  {config : Option ServiceConfig} {envs : Option Envs} {d : ServiceDescriptor}
  (resolved : ServiceDescriptor.resolve id modules config envs = .ok d) {sink : Sink}
  {service : Service}
  (built : (Service.build e.regime e.control d sink).result = some (.ok service))
  {name : String} {i : Wasm.Import} (reexports : d.Reexports name i) {facade : String}
  (hfacade : d.facadeName? = some facade) {s : Store guests} (evolves : Evolves service.store s)
  {arguments ordered : String} {m : RegisteredModule}
  (fits : service.prepare facade name arguments = .ok (m, ordered))

include compiled resolved built reexports hfacade evolves fits

/-- The facade of a service can be called and exports the sibling call, and the siblings are there.
-/
theorem Service.passes_on : ∃ inst a place, s.instances[m.place]? = some inst ∧
    Allocator.ofInstance s inst = .ok a ∧ exportedFunction? inst name = some place ∧
    s.functions[place]? = some (.host callableType (.sibling i.module i.name)) ∧
    Backwards d.modules s := by
  have whole := Engine.compile_whole compiled
  have names := ServiceDescriptor.nodup_names resolved
  obtain ⟨stage, hstore⟩ := stage_of_build built
  have settles : Evolves _ service.store := hstore ▸ Evolves.settled (.refl _)
  have later := settles.trans evolves
  obtain ⟨entry, inst, place, hentry, hinst, hexport, held⟩ :=
    stage.reexported whole names reexports hfacade
  rw [← later.instances] at hinst
  rw [← later.functions] at held
  obtain rfl : entry = m := Option.some.inj (hentry.symm.trans (modules_of_prepare fits))
  obtain ⟨inst', hinst', allocates⟩ := (build_ok built).1.instances facade entry hentry
  rw [← evolves.instances] at hinst'
  obtain rfl : inst' = inst := Option.some.inj (hinst'.symm.trans hinst)
  obtain ⟨a, ha⟩ := (allocates.extend evolves.toExtends).ofInstance
  exact ⟨inst', a, place, hinst, ha, hexport, held, (stage.backwards whole names).1.evolve later⟩

/-- **A call of a function that a facade passes on never completes.** The sibling's function is
there, but it is not run: once its input is handed over, the call fails because there is no memory
of a caller. -/
theorem Service.reexport_fails (parameters : CallParameters) :
    let now : Service := { service with store := s }
    let call : GuestCall := Wasm.invoke hostFunctions e.regime e.regime.stack none
    (∃ behind place i' a', Resolved s i.module i.name (behind + 1) place i' a') ∧
    now.completion e.regime facade name arguments parameters = none ∧
    (∀ text, (now.invoke e.regime facade name arguments parameters).result ≠ some (.ok text)) ∧
    ∃ inst a, s.instances[m.place]? = some inst ∧ Allocator.ofInstance s inst = .ok a ∧
      ∀ handed s₁, Wasm.crossingBytes ≤ e.regime.stack →
        handOver a call (Text.bytes ordered) (equipped s parameters) = .value handed s₁ →
        now.invoke e.regime facade name arguments parameters =
          .failed (.guest (.fault name "module does not export `memory`"))
            (now.put (equipped s₁ {})) s₁.data.records := by
  intro now call
  have hprepare : now.prepare facade name arguments = .ok (m, ordered) := fits
  obtain ⟨inst, a, place, hinst, ha, hexport, held, back⟩ :=
    passes_on compiled resolved built reexports hfacade evolves fits
  have htype : hasType s place callableType := hasType_iff.2 ⟨_, held, rfl⟩
  obtain ⟨behind, provides⟩ := back.every i.module i.name ⟨_, List.mem_of_getElem? held⟩
  obtain ⟨why, s₁, hstop⟩ : ∃ why s₁, runExport a call place (Text.bytes ordered)
      (equipped s parameters) = .stop why s₁ := by
    refine runExport_stops fun handed s₁ hhanded => ?_
    have hrun := back.stops_handed held e.regime hhanded
    by_cases hstack : e.regime.stack < Wasm.crossingBytes
    · rw [if_pos hstack] at hrun
      exact ⟨_, _, hrun⟩
    · rw [if_neg hstack] at hrun
      exact ⟨_, _, hrun⟩
  have told := callModule_told hinst hexport htype ha hstop
  refine ⟨⟨behind, provides.resolved⟩, ?_, fun text => ?_, inst, a, hinst, ha, ?_⟩
  · unfold completion
    simp only [hprepare]
    rw [told]
    cases why <;> rfl
  · unfold invoke
    simp only [hprepare]
    rw [told]
    cases why <;> simp [toldStop, Effect.broken, Effect.failed, Except.bind]
  · intro handed s₁ hstack hhanded
    have hrun := back.stops_handed held e.regime hhanded
    rw [if_neg (Nat.not_lt_of_le hstack)] at hrun
    have told := callModule_told hinst hexport htype ha (runExport_of_stop hhanded hrun)
    unfold invoke
    simp only [hprepare]
    rw [told]
    rfl

end

/-- In a service of `relay`, the facade passes on the function `e` of the module before as `g`. -/
theorem reexports_relayed : relayed.Reexports "g" ⟨"m", "e", .func 1⟩ := by
  refine ⟨by decide, ⟨"n", .owned relay, plainSettings⟩, ?_⟩
  have found : ∃ m ∈ Module.decode? relay, m.functionImports[0]? = some ⟨"m", "e", .func 1⟩ ∧
      ⟨"g", .func, 0⟩ ∈ m.exports := by
    decide +kernel
  obtain ⟨m, hdecode, hi, hexport⟩ := found
  exact ⟨m, 0, rfl, hdecode, hi, hexport⟩

theorem Service.reexport_fails_relayed : ∃ (e : Engine) (service : Service)
    (m : RegisteredModule),
    Engine.compile {} [0, 97, 115, 109, 1, 0, 0, 0] = .ok e ∧
      (build e.regime e.control relayed .total).result = some (.ok service) ∧
      relayed.Reexports "g" ⟨"m", "e", .func 1⟩ ∧ relayed.facadeName? = some "n" ∧
      service.prepare "n" "g" "[1]" = .ok (m, "[1]") ∧
      service.completion e.regime "n" "g" "[1]" {} = none := by
  have compiled : Engine.compile {} [0, 97, 115, 109, 1, 0, 0, 0] =
      .ok { regime := {}, control := {} } := rfl
  obtain ⟨service, built⟩ := exists_build_relayed
  have prepares : ((build {} {} relayed .total).result.bind (·.toOption)).map
      (fun service => (service.prepare "n" "g" "[1]").toOption.map (·.2)) = some (some "[1]") := by
    decide +kernel
  rw [built] at prepares
  obtain ⟨⟨m, ordered⟩, hprepared, rfl⟩ := Option.map_eq_some_iff.1 (Option.some.inj prepares)
  have fits : service.prepare "n" "g" "[1]" = .ok (m, "[1]") := by
    cases hprepare : service.prepare "n" "g" "[1]" with
    | error cause =>
      rw [hprepare] at hprepared
      cases hprepared
    | ok prepared =>
      rw [hprepare] at hprepared
      exact congrArg _ (Option.some.inj hprepared)
  obtain ⟨-, lost, -⟩ := reexport_fails compiled resolve_relayed built reexports_relayed rfl
    (.refl service.store) fits {}
  exact ⟨_, service, m, compiled, built, reexports_relayed, rfl, fits, lost⟩

/-- The function of the sibling returns its input, and the function that the facade passes on, which
is the same, fails. -/
theorem Service.reexport_lost : ∃ service : Service,
    ServiceDescriptor.resolve "s" [("m", .owned Registry.echo), ("n", .owned relay)] none none =
        .ok relayed ∧
      (build {} {} relayed .total).result = some (.ok service) ∧
      relayed.Reexports "g" ⟨"m", "e", .func 1⟩ ∧ relayed.facadeName? = some "n" ∧
      (service.prepare "n" "g" "[1]").isOk ∧
      service.completion {} "m" "e" "[1]" {} = some ⟨0, Text.bytes "[1]"⟩ ∧
      (service.invoke {} "n" "g" "[1]" {}).result =
        some (.error (.guest (.fault "g" "module does not export `memory`"))) := by
  obtain ⟨service, built⟩ := exists_build_relayed
  have calls : ((build {} {} relayed .total).result.bind (·.toOption)).map (fun service =>
      ((service.prepare "n" "g" "[1]").isOk, service.completion {} "m" "e" "[1]" {},
        (service.invoke {} "n" "g" "[1]" {}).result)) =
      some (true, some ⟨0, Text.bytes "[1]"⟩,
        some (.error (.guest (.fault "g" "module does not export `memory`")))) := by
    decide +kernel
  rw [built] at calls
  have calls := Option.some.inj calls
  simp only [Prod.mk.injEq] at calls
  obtain ⟨hprepare, hcompletion, hinvoke⟩ := calls
  exact ⟨service, resolve_relayed, built, reexports_relayed, rfl, hprepare, hcompletion, hinvoke⟩

end ModuleHost
