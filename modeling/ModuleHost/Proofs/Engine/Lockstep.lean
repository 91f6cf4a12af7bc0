import ModuleHost.Proofs.Engine.Muting

/-!
# Calls and registrations under other log settings

Apart from log calls nothing that the host does for guests looks at loggers.

* `mirrors_callExport` — calls of exports do the same where less is logged, if calls do;
* **`mirror_hostFunctions`**: so do the functions that guests import;
* `mirrors_callModule` — so do calls of modules;
* **`mirrors_registerModules`**: so do registrations, if the loggers of one mute those of the other.
-/

namespace ModuleHost

open Wasm (Word Store Run Instance Extern Regime Module)
open Wasm.Run.Mirrors

variable {id : String} {α β : Type}

/-! ## Access -/

theorem mirrors_orRaise (x : Except AbiFault α) : Mirrors id (orRaise x) (orRaise x) := by
  cases x with
  | ok a => exact of_pure a
  | error fault => exact of_stop _

theorem mirrors_readBuffer (memory : Nat) (pointer length : Word) :
    Mirrors id (readBuffer memory pointer length) (readBuffer memory pointer length) :=
  of_store (fun _ _ _ => rfl) fun _ => mirrors_orRaise _

theorem memoryAt_withData (s : Store guests) (d : ServiceData) (place : Nat) :
    memoryAt (s.withData d) place = memoryAt s place := rfl

theorem mirrors_readSlot (memory : Nat) (pointer : Word) :
    Mirrors id (readSlot memory pointer) (readSlot memory pointer) := by
  unfold readSlot
  exact of_store (fun s d _ => by rw [memoryAt_withData]) fun _ => mirrors_orRaise _

theorem mirrors_writeAt (memory : Nat) (pointer : Word) (bytes : Bytes) (fault : AbiFault) :
    Mirrors id (writeAt memory pointer bytes fault) (writeAt memory pointer bytes fault) := by
  refine of_store (fun _ _ _ => rfl) fun s => ?_
  split
  · exact Wasm.mirrors_putMemory _ _
  · exact of_stop _

theorem mirrors_writeSlot (memory : Nat) (pointer value : Word) :
    Mirrors id (writeSlot memory pointer value) (writeSlot memory pointer value) :=
  mirrors_writeAt memory pointer _ _

theorem mirrors_callingAllocator (caller : Option Nat) :
    Mirrors id (callingAllocator caller) (callingAllocator caller) := by
  have instance_ : Mirrors id (callingInstance caller) (callingInstance caller) :=
    of_store (fun _ _ _ => rfl) fun _ => of_pure _
  exact instance_.bind fun i => of_store (fun _ _ _ => rfl) fun _ => mirrors_orRaise _

theorem mirrors_note {x : Exchange} (hx : x.said? id = none) : Mirrors id (note x) (note x) :=
  fun _ legible => ⟨legible.before, fun _ muted => ⟨_, muted.note hx, rfl⟩⟩

/-! ## Calls -/

/-- Calls of a store do the same where less is logged. -/
def CallsMirror (id : String) (call : GuestCall) : Prop :=
  ∀ place arguments, Mirrors id (call place arguments) (call place arguments)

section

variable {call : GuestCall} (calls : CallsMirror id call)

include calls

theorem mirrors_write (a : Allocator) (bytes : Bytes) :
    Mirrors id (a.write call bytes) (a.write call bytes) := by
  unfold Allocator.write
  split
  · exact of_stop _
  · refine (calls a.allocate _).bind fun results => (mirrors_note rfl).bind fun _ => ?_
    exact (mirrors_writeAt _ _ _ _).bind fun _ => of_pure _

theorem mirrors_free (a : Allocator) (pointer length : Word) :
    Mirrors id (a.free call pointer length) (a.free call pointer length) := by
  unfold Allocator.free
  split
  · exact of_pure _
  · exact (mirrors_note rfl).bind fun _ => (calls _ _).bind fun _ => of_pure _

theorem mirrors_runExport (a : Allocator) (function : Nat) (input : Bytes) :
    Mirrors id (runExport a call function input) (runExport a call function input) := by
  unfold runExport
  refine (mirrors_write calls a input).bind fun inputAt => ?_
  refine (mirrors_write calls a emptySlots).bind fun slots => ?_
  refine (of_orStop _ _).bind fun lengthSlot => ?_
  refine (calls function _).bind fun results => ?_
  refine (mirrors_readSlot _ _).bind fun outputAt => ?_
  refine (mirrors_readSlot _ _).bind fun outputLength => ?_
  refine (mirrors_readBuffer _ _ _).bind fun bytes => ?_
  have rest := (mirrors_free calls a slots 8).bind fun _ =>
    (mirrors_free calls a inputAt (UInt32.ofNat input.length)).bind fun _ =>
      of_pure (RawOutput.mk (results.headD 0).toInt32 bytes)
  show Mirrors id (if 0 < outputLength.toInt32 then _ else _)
    (if 0 < outputLength.toInt32 then _ else _)
  split
  · exact (mirrors_free calls a outputAt outputLength).bind fun _ => rest
  · exact rest

theorem mirrors_runCallable (i : Instance) (place : Nat) (input : Bytes) :
    Mirrors id (runCallable i call place input) (runCallable i call place input) := by
  refine of_store (fun _ _ _ => rfl) fun s => ?_
  split
  · refine of_store (fun _ _ _ => rfl) fun s => (mirrors_orRaise _).bind fun a => ?_
    exact mirrors_runExport calls a place input
  · exact of_stop _

theorem mirrors_callExport (i : Instance) (function : String) (input : Bytes) :
    Mirrors id (callExport i call function input) (callExport i call function input) := by
  unfold callExport
  split
  · exact of_pure _
  · refine (mirrors_runCallable calls i _ input).attempt.bind fun result => ?_
    split
    · exact of_pure _
    · exact of_pure _

/-! ## Imports -/

theorem mirrors_answerWith (own : Allocator) (bytes : Bytes) (pointerSlot lengthSlot : Word) :
    Mirrors id (answerWith own call bytes pointerSlot lengthSlot)
      (answerWith own call bytes pointerSlot lengthSlot) :=
  (mirrors_write calls own bytes).bind fun _ =>
    (mirrors_writeSlot _ _ _).bind fun _ => mirrors_writeSlot _ _ _

theorem mirrors_handOutParameters (caller : Option Nat) (pointerSlot lengthSlot : Word) :
    Mirrors id (handOutParameters call caller pointerSlot lengthSlot)
      (handOutParameters call caller pointerSlot lengthSlot) := by
  refine of_store (fun s d muted => ?_) fun s => ?_
  · rw [muted.same]
    rfl
  · refine (mirrors_callingAllocator caller).bind fun own => ?_
    exact (mirrors_answerWith calls own _ _ _).bind fun _ => mirrors_note rfl

theorem mirrors_callSibling (module function : String) (caller : Option Nat)
    (input inputLength pointerSlot lengthSlot : Word) :
    Mirrors id
      (callSibling module function call caller input inputLength pointerSlot lengthSlot)
      (callSibling module function call caller input inputLength pointerSlot lengthSlot) := by
  refine of_store (fun s d muted => ?_) fun s => (mirrors_note rfl).bind fun _ => ?_
  · rw [muted.same]
    rfl
  · split
    · exact of_stop _
    · refine (mirrors_callingAllocator caller).bind fun own => ?_
      refine (mirrors_readBuffer _ _ _).bind fun input => ?_
      refine (mirrors_callExport calls _ function input).bind fun called => ?_
      split
      · exact of_stop _
      · exact (mirrors_answerWith calls own _ _ _).bind fun _ => of_pure _

end

/-- **The functions that guests import do the same where less is logged.** -/
theorem mirror_hostFunctions : hostFunctions.Mirror Legible (Muted id) := by
  intro f caller arguments call calls
  unfold hostFunctions
  split
  · exact mirrors_log call _ caller
  · exact (mirrors_handOutParameters calls caller _ _).bind fun _ => of_pure _
  · exact (mirrors_callSibling calls _ _ caller _ _ _ _).bind fun _ => of_pure _
  · exact of_stop _

theorem mirrors_setData (f f' : ServiceData → ServiceData)
    (legible : ∀ d, Legible (f d) → Legible d)
    (muted : ∀ d d', Muted id d d' → Muted id (f d) (f' d')) :
    Mirrors id (Run.modify fun s => { s with data := f s.data })
      (Run.modify fun s => { s with data := f' s.data }) :=
  fun _ h => ⟨legible _ h, fun d hd => ⟨f' d, muted _ _ hd, rfl⟩⟩

theorem mirrors_setParameters (p : CallParameters) :
    Mirrors id (setParameters p) (setParameters p) :=
  mirrors_setData (fun d => { d with parameters := p }) (fun d => { d with parameters := p })
    (fun _ h => ⟨h.readable, h.taken⟩) fun d d' muted => { muted with same := by rw [muted.same] }

theorem mirrors_callModule (regime : Regime) (m : RegisteredModule) (function arguments : String)
    (parameters : CallParameters) :
    Mirrors id (Service.callModule regime m function arguments parameters)
      (Service.callModule regime m function arguments parameters) := by
  refine of_store (fun _ _ _ => rfl) fun s => (mirrors_setParameters parameters).bind fun _ => ?_
  refine (mirrors_callExport (fun place arguments => ?_) _ _ _).bind fun _ => ?_
  · exact Wasm.mirrors_invoke mirror_hostFunctions regime regime.stack none place arguments
  · exact (mirrors_setParameters {}).bind fun _ => of_pure _

/-! ## Registrations -/

namespace Registering

variable {module : String}

/-- Two steps of registrations do the same, the one where everything is logged and the other where
less is. -/
def Mirrors (id : String) (x y : Registering α) : Prop := ModuleHost.Mirrors id x.run y.run

theorem mirrors_pure (a : α) : Mirrors id (pure a : Registering α) (pure a) := of_pure _

theorem mirrors_bind {x y : Registering α} {f g : α → Registering β} (hx : Mirrors id x y)
    (hf : ∀ a, Mirrors id (f a) (g a)) : Mirrors id (x >>= f) (y >>= g) := by
  refine Run.Mirrors.bind hx fun result => ?_
  cases result with
  | ok a => exact hf a
  | error cause => exact of_pure _

theorem mirrors_lift {x y : Guest α} (hx : ModuleHost.Mirrors id x y) :
    Mirrors id (liftM x : Registering α) (liftM y) :=
  hx.bind fun _ => of_pure _

/-- A step that looks at the store, but neither at records nor at the settings of loggers. -/
theorem mirrors_look {f g : Store guests → Registering α}
    (hg : ∀ (s : Store guests) d, Muted id s.data d → g (s.withData d) = g s)
    (h : ∀ s, Mirrors id (f s) (g s)) :
    Mirrors id ((liftM Run.store : Registering (Store guests)) >>= f)
      ((liftM Run.store : Registering (Store guests)) >>= g) :=
  of_store (f := fun s => (f s).run) (g := fun s => (g s).run)
    (fun s d muted => congrArg ExceptT.run (hg s d muted)) h

theorem mirrors_orRefuse (x : Except String α) :
    Mirrors id (orRefuse module x) (orRefuse module x) := by
  cases x <;> exact of_pure _

theorem mirrors_orEngine (x : Option α) : Mirrors id (orEngine module x) (orEngine module x) := by
  cases x <;> exact of_pure _

theorem mirrors_runOrRefuse {x y : Guest α} (hx : ModuleHost.Mirrors id x y) :
    Mirrors id (runOrRefuse module x) (runOrRefuse module y) := by
  refine mirrors_bind (mirrors_lift hx.attempt) fun result => ?_
  cases result <;> exact of_pure _

end Registering

open Registering

theorem mirrors_instantiateLinked (regime : Regime) (control : Nat) (name : String) (m : Module)
    (functions : List ((String × String) × HostFunction)) :
    Registering.Mirrors id (instantiateLinked regime control name m functions)
      (instantiateLinked regime control name m functions) := by
  have hoffer : Mirrors id (offer functions) (offer functions) :=
    fun _ legible => ⟨⟨legible.readable, legible.taken⟩, fun d muted => ⟨d, muted, rfl⟩⟩
  refine mirrors_bind (mirrors_lift hoffer) fun offered => ?_
  refine mirrors_look (fun _ _ _ => rfl) fun s => ?_
  refine mirrors_bind (mirrors_orEngine _) fun parts => ?_
  exact mirrors_runOrRefuse (Wasm.mirrors_instantiate mirror_hostFunctions regime m parts)

/-- A module descriptor with other settings, a logger that lets less pass. -/
structure ModuleDescriptor.Mutes (id : String) (d' d : ModuleDescriptor) : Prop where
  importName : d'.importName = d.importName
  bytes : d'.bytes = d.bytes
  logger : (d'.logger id).Mutes id (d.logger id)

theorem checkImports_withData (s : Store guests) (d : ServiceData) (earlier : RegisteredModules)
    (imports : List Wasm.Import) :
    checkImports (s.withData d) earlier imports = checkImports s earlier imports := by
  induction imports with
  | nil => rfl
  | cons i is ih =>
    unfold checkImports
    rw [ih]
    rfl

theorem mirrors_addModule (regime : Regime) (control : Nat) (earlier : RegisteredModules)
    {d d' : ModuleDescriptor} (mutes : d'.Mutes id d) :
    Registering.Mirrors id (addModule regime control id earlier d)
      (addModule regime control id earlier d') := by
  have hadd : Mirrors id (addLogger (d.logger id)) (addLogger (d'.logger id)) :=
    mirrors_setData (fun e => { e with loggers := e.loggers ++ [d.logger id] })
      (fun e => { e with loggers := e.loggers ++ [d'.logger id] })
      (fun _ h => ⟨h.readable, h.taken⟩) fun _ _ muted => muted.addLogger mutes.logger
  have henter (name : String) (place : Nat) :
      Mirrors id (enterDirectory name place) (enterDirectory name place) :=
    mirrors_setData (fun d => { d with directory := d.directory.insert name place })
      (fun d => { d with directory := d.directory.insert name place })
      (fun _ h => ⟨h.readable, h.taken⟩) fun d d' muted =>
        { muted with same := by rw [muted.same] }
  unfold addModule
  rw [mutes.importName, mutes.bytes]
  refine mirrors_look (fun s e muted => ?_) fun s => ?_
  · have hlength : e.loggers.length = s.data.loggers.length := muted.loggers.length_eq
    show _ = _
    simp only [Wasm.Store.withData, hlength]
  · refine mirrors_bind (mirrors_lift hadd) fun _ => ?_
    refine mirrors_bind (mirrors_orRefuse _) fun interface => ?_
    refine mirrors_bind (mirrors_orEngine _) fun m => ?_
    refine mirrors_look (fun s e _ => ?_) fun s => ?_
    · rw [checkImports_withData]
    · refine mirrors_bind (mirrors_orRefuse _) fun _ => ?_
      refine mirrors_bind (mirrors_orRefuse _) fun _ => ?_
      refine mirrors_bind (mirrors_instantiateLinked regime control _ m _) fun place => ?_
      refine mirrors_look (fun _ _ _ => rfl) fun s => ?_
      refine mirrors_bind (mirrors_orRefuse _) fun _ => ?_
      exact mirrors_bind (mirrors_lift (henter _ place)) fun _ => mirrors_pure _

theorem mirrors_addModules (regime : Regime) (control : Nat) {ds ds' : List ModuleDescriptor}
    (mutes : List.Forall₂ (ModuleDescriptor.Mutes id) ds' ds) :
    ∀ earlier, Registering.Mirrors id (addModules regime control id earlier ds)
      (addModules regime control id earlier ds') := by
  induction mutes with
  | nil => exact fun earlier => mirrors_pure earlier
  | cons head _ ih =>
    intro earlier
    refine mirrors_bind (mirrors_addModule regime control earlier head) fun entry => ?_
    rw [head.importName]
    exact ih _

/-- A service descriptor with other settings of its modules, which let less pass. -/
structure ServiceDescriptor.Mutes (d' d : ServiceDescriptor) : Prop where
  serviceId : d'.serviceId = d.serviceId
  modules : List.Forall₂ (ModuleDescriptor.Mutes d.serviceId) d'.modules d.modules

/-- **Registrations do the same where less is logged.** -/
theorem mirrors_registerModules (regime : Regime) (control : Module) {d d' : ServiceDescriptor}
    (mutes : d'.Mutes d) :
    Registering.Mirrors d.serviceId (registerModules regime control d)
      (registerModules regime control d') := by
  unfold registerModules
  rw [mutes.serviceId]
  refine mirrors_bind ?_ fun place => mirrors_addModules regime place mutes.modules _
  exact mirrors_runOrRefuse (Wasm.mirrors_instantiate mirror_hostFunctions regime control [])

end ModuleHost
