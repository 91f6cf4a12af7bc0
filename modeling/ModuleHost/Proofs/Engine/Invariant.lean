import ModuleHost.Engine.Invocation
import ModuleHost.Engine.Imports
import ModuleHost.Proofs.Wasm.Invariant

/-!
# What calls of a service keep

The host answers the imports of guests, and calls guests in turn. What both keep, a call keeps.

* `AbiFault.Plain` — a breach of the calling convention that has nothing to do with siblings;
* `CallFails` — how a call of an export by name fails;
* `Tolerant`, `HostRules` — what the allowed stops have to admit where the host looks at guests, and
  what a property of stores has to admit where it writes into their memories;
* `Allocator.Usable`, `MayCall` — the host may use an allocator, may call an export;
* `CallRules` — what a property and the allowed stops have to admit where guests call the host;
* **`CallRules.within_hostFunctions`**: the functions that guests import keep such a property;
* `ConfinedRules` — the same with what they have to admit where the host calls guests, if only some
  calls are made;
* `ConfinedRules.keeps_invoke`, `ConfinedRules.keeps_callExport` — so does every call;
* `GuestRules` — the same for properties that admit every memory and every call of the host;
* `GuestInvariant` — and for properties that do not tell one log record from another.
-/

namespace ModuleHost

open Wasm (Word Store Run Instance Steady Lenient Ended)

/-- A breach of the calling convention that has nothing to do with siblings. -/
def AbiFault.Plain : AbiFault → Prop
  | .notInstantiated _ | .sibling _ => False
  | _ => True

/-- The store with one more exchange. -/
def noted (x : Exchange) (s : Store guests) : Store guests :=
  { s with data := { s.data with exchanges := s.data.exchanges ++ [x] } }

theorem note_bind {α : Type} (x : Exchange) (f : Unit → Guest α) (s : Store guests) :
    (note x >>= f) s = f () (noted x s) := rfl

/-- A store holds a function that calls a sibling. -/
def CallsSibling (s : Store guests) (module function : String) : Prop :=
  ∃ type, .host type (.sibling module function) ∈ s.functions

/-- A buffer passes between the host and a guest. -/
def Exchange.Buffer : Exchange → Prop
  | .allocated .. | .freed .. => True
  | .log .. | .parameters _ | .sibling .. => False

/-- How a call of an export by name fails: the export is missing, or it stops for a reason that is
allowed and told. -/
inductive CallFails (Q : GuestStop → Prop) (function : String) : GuestError → Prop
  | missing : CallFails Q function (.missingFunction function)
  | stopped {why : GuestStop} (allowed : Q why) (broken : why ≠ .broken)
      (endless : why ≠ .endless) : CallFails Q function (.fault function (stopText why))

/-- The stops that the host makes are allowed. -/
structure Tolerant (Q : GuestStop → Prop) : Prop where
  lenient : Lenient Q
  broken : Q .broken
  plain : ∀ fault : AbiFault, fault.Plain → Q (.raised fault)

/-- A property of stores that the host keeps where it writes into memories of guests, and the stops
that it makes. -/
structure HostRules (P : Store guests → Prop) (Q : GuestStop → Prop) : Prop extends Tolerant Q where
  steady : Steady P

/-- The greatest number of arguments that the host passes. -/
def hostArity : Nat := 4

/-- The host may write into the memory of an allocator and call its functions. -/
structure Allocator.Usable (May : Wasm.Calls) (P : Store guests → Prop) (a : Allocator) : Prop where
  memory : Wasm.Writable P a.memory
  allocate : ∀ n, May none a.allocate [n]
  deallocate : ∀ f, a.deallocate = some f → ∀ pointer length, May none f [pointer, length]

/-- The host may call an export of an instance. -/
structure MayCall (May : Wasm.Calls) (P : Store guests → Prop) (i : Instance)
    (function : String) : Prop where
  allocator : ∀ s a, P s → Allocator.ofInstance s i = .ok a → a.Usable May P
  exported : ∀ place, exportedFunction? i function = some place → ∀ arguments,
    arguments.length = hostArity → May none place arguments

/-- A property of stores that the functions which guests import keep, and the stops that they make,
if no other calls are made than `May` admits. -/
structure CallRules (May : Wasm.Calls) (P : Store guests → Prop) (Q : GuestStop → Prop) : Prop
    extends Tolerant Q where
  caller : ∀ s caller place arguments a, P s → May caller place arguments →
    Allocator.ofCaller s ((caller.bind (s.instances[·]?)).getD {}) = .ok a → a.Usable May P
  log : ∀ s place type position call caller level target targetLength message messageLength, P s →
    s.functions[place]? = some (.host type (.log position)) →
    May caller place [level, target, targetLength, message, messageLength] →
    (hostFunctions (.log position) call caller
      [level, target, targetLength, message, messageLength] s).Within P Q
  buffer : ∀ s x, x.Buffer → P s → P (noted x s)
  /-- The parameters may be handed out later than they were read. -/
  parameters : ∀ s s', P s → P s' → P (noted (.parameters (Text.bytes s.data.parameters.text)) s')
  sibling : ∀ s module function, P s → CallsSibling s module function →
    P (noted (.sibling module function (s.data.directory.get? module)) s)
  /-- A sibling may be missing only if that stop is allowed. -/
  missing : ∀ s module function, P s → CallsSibling s module function →
    (s.data.directory.get? module).bind (s.instances[·]?) = none →
    Q (.raised (.notInstantiated module))
  /-- A sibling call fails as the call of the sibling's function does. -/
  failed : ∀ s module function cause, P s → CallsSibling s module function →
    CallFails Q function cause → Q (.raised (.sibling cause))

/-- A property of stores that calls of a service keep, and the stops that they make, if no other
calls are made than `May` admits. -/
structure ConfinedRules (May : Wasm.Calls) (P : Store guests → Prop) (Q : GuestStop → Prop) : Prop
    extends CallRules May P Q where
  inside : May.Inside P
  callee : ∀ s caller place type module function arguments i, P s →
    s.functions[place]? = some (.host type (.sibling module function)) →
    May caller place arguments →
    (s.data.directory.get? module).bind (s.instances[·]?) = some i → MayCall May P i function

/-- The same if every memory may be changed and the host may make every call. -/
structure GuestRules (May : Wasm.Calls) (P : Store guests → Prop) (Q : GuestStop → Prop) : Prop
    extends HostRules P Q where
  guest : May.Guest P
  host : ∀ place arguments, arguments.length ≤ hostArity → May none place arguments
  log : ∀ s place type position call caller level target targetLength message messageLength, P s →
    s.functions[place]? = some (.host type (.log position)) →
    May caller place [level, target, targetLength, message, messageLength] →
    (hostFunctions (.log position) call caller
      [level, target, targetLength, message, messageLength] s).Within P Q
  buffer : ∀ s x, x.Buffer → P s → P (noted x s)
  parameters : ∀ s s', P s → P s' → P (noted (.parameters (Text.bytes s.data.parameters.text)) s')
  sibling : ∀ s module function, P s → CallsSibling s module function →
    P (noted (.sibling module function (s.data.directory.get? module)) s)
  missing : ∀ s module function, P s → CallsSibling s module function →
    (s.data.directory.get? module).bind (s.instances[·]?) = none →
    Q (.raised (.notInstantiated module))
  failed : ∀ s module function cause, P s → CallsSibling s module function →
    CallFails Q function cause → Q (.raised (.sibling cause))

/-- An exchange about which a store says nothing. -/
def Exchange.Free : Exchange → Prop
  | .log .. | .allocated .. | .freed .. => True
  | .parameters _ | .sibling .. => False

/-- A property of stores that log calls keep, and the stops that they make. -/
structure LogRules (P : Store guests → Prop) (Q : GuestStop → Prop) : Prop extends Tolerant Q where
  records : ∀ s r, P s → P { s with data := { s.data with records := s.data.records ++ [r] } }
  free : ∀ s x, x.Free → P s → P (noted x s)

/-- A property of stores that calls of a service keep, whatever they log, and the stops that they
make. -/
structure GuestInvariant (P : Store guests → Prop) (Q : GuestStop → Prop) : Prop
    extends HostRules P Q, LogRules P Q where
  parameters : ∀ s s', P s → P s' → P (noted (.parameters (Text.bytes s.data.parameters.text)) s')
  sibling : ∀ s module function, P s → CallsSibling s module function →
    P (noted (.sibling module function (s.data.directory.get? module)) s)
  missing : ∀ s module function, P s → CallsSibling s module function →
    (s.data.directory.get? module).bind (s.instances[·]?) = none →
    Q (.raised (.notInstantiated module))
  failed : ∀ s module function cause, P s → CallsSibling s module function →
    CallFails Q function cause → Q (.raised (.sibling cause))

/-! ## Faults -/

theorem plain_of_bufferIn {m : Wasm.Memory} {pointer length : Word} {fault : AbiFault}
    (h : bufferIn m pointer length = .error fault) : fault.Plain := by
  unfold bufferIn at h
  split at h
  · cases h
    trivial
  · split at h
    · cases h
    · split at h
      · cases h
      · cases h
        trivial

theorem plain_of_ofInstance {s : Store guests} {i : Instance} {fault : AbiFault}
    (h : Allocator.ofInstance s i = .error fault) : fault.Plain := by
  unfold Allocator.ofInstance at h
  split at h
  · cases h
    trivial
  · split at h
    · cases h
      trivial
    · cases h

theorem plain_of_ofCaller {s : Store guests} {i : Instance} {fault : AbiFault}
    (h : Allocator.ofCaller s i = .error fault) : fault.Plain := by
  unfold Allocator.ofCaller at h
  split at h
  · cases h
    trivial
  · split at h
    · cases h
      trivial
    · split at h
      · cases h
      · cases h
        trivial

theorem of_write? {P : Store guests → Prop} {memory : Nat} (writable : Wasm.Writable P memory)
    {s : Store guests} (hs : P s) {start : Nat} {bytes : Bytes} {written : Wasm.Memory}
    (h : (memoryAt s memory).write? start bytes = some written) :
    P { s with memories := s.memories.set memory written } := by
  cases hm : s.memories[memory]? with
  | some m =>
    have hat : memoryAt s memory = m := by rw [memoryAt, hm, Option.getD_some]
    rw [hat] at h
    exact writable s m written hs hm (Wasm.Memory.follows_of_write? h)
  | none =>
    have hset : s.memories.set memory written = s.memories :=
      List.set_eq_of_length_le (List.getElem?_eq_none_iff.1 hm)
    rwa [hset]

namespace Tolerant

variable {P : Store guests → Prop} {Q : GuestStop → Prop} (rules : Tolerant Q) {α : Type}

include rules

/-! ## Access -/

theorem keeps_orRaise {x : Except AbiFault α} (h : ∀ fault, x = .error fault → fault.Plain) :
    Run.Keeps P Q (orRaise x) := by
  cases x with
  | ok a => exact .of_pure a
  | error fault => exact .of_stop (rules.plain fault (h fault rfl))

theorem keeps_raise {fault : AbiFault} (h : fault.Plain) :
    Run.Keeps P Q (Run.raise fault : Guest α) :=
  .of_stop (rules.plain fault h)

theorem keeps_readBuffer (memory : Nat) (pointer length : Word) :
    Run.Keeps P Q (readBuffer memory pointer length) :=
  .of_store fun s hs => rules.keeps_orRaise (fun _ => plain_of_bufferIn) s hs

theorem keeps_readSlot (memory : Nat) (pointer : Word) :
    Run.Keeps P Q (readSlot memory pointer) := by
  refine .of_store fun s hs => rules.keeps_orRaise (fun fault h => ?_) s hs
  split at h
  · cases h
  · cases h
    trivial

theorem within_writeAt {memory : Nat} {pointer : Word} {bytes : Bytes} {fault : AbiFault}
    {s : Store guests} (hs : P s) (kept : ∀ written,
      (memoryAt s memory).write? pointer.toNat bytes = some written →
      P { s with memories := s.memories.set memory written }) (h : fault.Plain) :
    (writeAt memory pointer bytes fault s).Within P Q := by
  unfold writeAt
  rw [Run.store_bind]
  cases hw : (memoryAt s memory).write? pointer.toNat bytes with
  | none => exact rules.keeps_raise h s hs
  | some written => exact kept written hw

theorem keeps_writeAt {memory : Nat} (writable : Wasm.Writable P memory) (pointer : Word)
    (bytes : Bytes) {fault : AbiFault} (h : fault.Plain) :
    Run.Keeps P Q (writeAt memory pointer bytes fault) :=
  fun _ hs => rules.within_writeAt hs (fun _ => of_write? writable hs) h

theorem keeps_writeSlot {memory : Nat} (writable : Wasm.Writable P memory)
    (pointer value : Word) : Run.Keeps P Q (writeSlot memory pointer value) :=
  rules.keeps_writeAt writable pointer _ trivial

omit rules in
theorem keeps_callingInstance (caller : Option Nat) : Run.Keeps P Q (callingInstance caller) :=
  .of_store fun _ hs => hs

omit rules in
theorem callingAllocator_apply (caller : Option Nat) (s : Store guests) :
    callingAllocator caller s =
      orRaise (Allocator.ofCaller s ((caller.bind (s.instances[·]?)).getD {})) s := rfl

theorem keeps_callingAllocator (caller : Option Nat) {f : Allocator → Guest α}
    (h : ∀ s a, P s →
      Allocator.ofCaller s ((caller.bind (s.instances[·]?)).getD {}) = .ok a →
      (f a s).Within P Q) : Run.Keeps P Q (callingAllocator caller >>= f) := by
  intro s hs
  rw [Run.bind_apply, callingAllocator_apply]
  cases ha : Allocator.ofCaller s ((caller.bind (s.instances[·]?)).getD {}) with
  | ok a => exact h s a hs ha
  | error fault => exact ⟨hs, rules.plain fault (plain_of_ofCaller ha)⟩

theorem keeps_callingMemory (caller : Option Nat) : Run.Keeps P Q (callingMemory caller) := by
  refine (keeps_callingInstance caller).bind fun i => .of_store fun s hs => ?_
  refine rules.keeps_orRaise (fun fault h => ?_) s hs
  split at h
  · cases h
  · cases h
    trivial

omit rules in
theorem keeps_callingSnapshot (caller : Option Nat) :
    Run.Keeps P Q (callingSnapshot caller) :=
  (keeps_callingInstance caller).bind fun _ => .of_store fun _ hs => hs

end Tolerant

namespace CallRules

variable {May : Wasm.Calls} {P : Store guests → Prop} {Q : GuestStop → Prop}
  (rules : CallRules May P Q)

/-! ## Calls -/

/-- The calls by the host that are made keep the property. -/
def CallsKeep (May : Wasm.Calls) (P : Store guests → Prop) (Q : GuestStop → Prop)
    (call : GuestCall) : Prop :=
  ∀ place arguments, May none place arguments → Run.Keeps P Q (call place arguments)

variable {call : GuestCall} (calls : CallsKeep May P Q call)

include rules

theorem keeps_note {x : Exchange} (h : x.Buffer) : Run.Keeps P Q (note x) :=
  fun s hs => rules.buffer s x h hs

theorem keeps_runCallable {i : Instance} {place : Nat} {input : Bytes}
    (runs : ∀ s a, P s → Allocator.ofInstance s i = .ok a →
      (runExport a call place input s).Within P Q) :
    Run.Keeps P Q (runCallable i call place input) := by
  refine .of_store fun s hs => ?_
  split
  · change (Run.store >>= fun s => orRaise (Allocator.ofInstance s i) >>= fun a =>
      runExport a call place input) s |>.Within P Q
    rw [Run.store_bind]
    cases ha : Allocator.ofInstance s i with
    | error fault => exact ⟨hs, rules.plain fault (plain_of_ofInstance ha)⟩
    | ok a => exact runs s a hs ha
  · exact Run.Keeps.of_stop (rules.plain .exportType trivial) s hs

omit rules

/-- The function of a name keeps the property, if an instance exports one. -/
def ExportKeeps (P : Store guests → Prop) (Q : GuestStop → Prop) (i : Instance) (call : GuestCall)
    (function : String) : Prop :=
  ∀ place, exportedFunction? i function = some place → ∀ input,
    Run.Keeps P Q (runCallable i call place input)

theorem keeps_callExport_of {i : Instance} {function : String}
    (exported : ExportKeeps P Q i call function) (input : Bytes) :
    Run.Keeps P Q (callExport i call function input) := by
  unfold callExport
  split
  · exact .of_pure _
  · next place hplace =>
    refine (exported place hplace input).attempt.bind fun result => ?_
    split
    · exact .of_pure _
    · exact .of_pure _

/-- A call of an export fails because there is none or because of a stop that is allowed. -/
theorem fails_of_callExport {i : Instance} {function : String}
    (exported : ExportKeeps P Q i call function) {input : Bytes} {s s' : Store guests}
    {cause : GuestError} (hs : P s)
    (h : callExport i call function input s = .value (.error cause) s') :
    CallFails Q function cause := by
  unfold callExport at h
  cases hplace : exportedFunction? i function with
  | none =>
    rw [hplace] at h
    cases h
    exact .missing
  | some place =>
    have within := exported place hplace input s hs
    rw [hplace] at h
    dsimp only at h
    rw [Run.bind_apply, Run.attempt] at h
    cases hrun : runCallable i call place input s with
    | value output s₁ =>
      rw [hrun] at h
      cases h
    | stop why s₁ =>
      rw [hrun] at h within
      cases why with
      | broken | endless => cases h
      | trap | memoryFault | raised =>
        cases h
        exact .stopped within.2 nofun nofun

include rules calls

theorem keeps_write {a : Allocator} (usable : a.Usable May P) (bytes : Bytes) :
    Run.Keeps P Q (a.write call bytes) := by
  unfold Allocator.write
  split
  · exact rules.keeps_raise trivial
  · refine (calls a.allocate [_] (usable.allocate _)).bind fun results => ?_
    refine .bind (rules.keeps_note trivial) fun _ => ?_
    exact .bind (rules.keeps_writeAt usable.memory _ _ trivial) fun _ => .of_pure _

theorem keeps_free {a : Allocator}
    (deallocate : ∀ f, a.deallocate = some f → ∀ pointer length, May none f [pointer, length])
    (pointer length : Word) : Run.Keeps P Q (a.free call pointer length) := by
  unfold Allocator.free
  split
  · exact .of_pure _
  · next f hf =>
    refine .bind (rules.keeps_note trivial) fun _ => ?_
    exact (calls f [pointer, length] (deallocate f hf _ _)).bind fun _ => .of_pure _

theorem keeps_runExport_of {a : Allocator} (writes : ∀ bytes, Run.Keeps P Q (a.write call bytes))
    (deallocate : ∀ f, a.deallocate = some f → ∀ pointer length, May none f [pointer, length])
    {function : Nat} (may : ∀ arguments, arguments.length = hostArity → May none function arguments)
    (input : Bytes) : Run.Keeps P Q (runExport a call function input) := by
  unfold runExport
  refine (writes input).bind fun inputAt => ?_
  refine (writes emptySlots).bind fun slots => ?_
  refine (Run.Keeps.of_orStop rules.broken _).bind fun lengthSlot => ?_
  refine (calls function [inputAt, UInt32.ofNat input.length, slots, lengthSlot]
    (may _ rfl)).bind fun results => ?_
  refine (rules.keeps_readSlot _ _).bind fun outputAt => ?_
  refine (rules.keeps_readSlot _ _).bind fun outputLength => ?_
  refine (rules.keeps_readBuffer _ _ _).bind fun bytes => ?_
  have rest := (rules.keeps_free calls deallocate slots 8).bind fun _ =>
    (rules.keeps_free calls deallocate inputAt (UInt32.ofNat input.length)).bind fun _ =>
      Run.Keeps.of_pure (RawOutput.mk (results.headD 0).toInt32 bytes)
  show Run.Keeps P Q (if 0 < outputLength.toInt32 then _ else _)
  split
  · exact (rules.keeps_free calls deallocate outputAt outputLength).bind fun _ => rest
  · exact rest

theorem exportKeeps {i : Instance} {function : String} (may : MayCall May P i function) :
    ExportKeeps P Q i call function := by
  intro place hplace input
  refine rules.keeps_runCallable fun s a hs ha => ?_
  have usable := may.allocator s a hs ha
  exact rules.keeps_runExport_of calls (rules.keeps_write calls usable) usable.deallocate
    (may.exported place hplace) input s hs

theorem keeps_callExport {i : Instance} {function : String} (may : MayCall May P i function)
    (input : Bytes) : Run.Keeps P Q (callExport i call function input) :=
  keeps_callExport_of (rules.exportKeeps calls may) input

/-! ## Imports -/

theorem keeps_answerWith {own : Allocator} (usable : own.Usable May P) (bytes : Bytes)
    (pointerSlot lengthSlot : Word) :
    Run.Keeps P Q (answerWith own call bytes pointerSlot lengthSlot) := by
  refine (rules.keeps_write calls usable bytes).bind fun pointer => ?_
  exact (rules.keeps_writeSlot usable.memory _ _).bind fun _ =>
    rules.keeps_writeSlot usable.memory _ _

variable {caller : Option Nat} {place : Nat} {arguments : List Word}

theorem keeps_handOutParameters (may : May caller place arguments)
    (pointerSlot lengthSlot : Word) :
    Run.Keeps P Q (handOutParameters call caller pointerSlot lengthSlot) := by
  refine .of_store fun s hs => ?_
  refine rules.keeps_callingAllocator caller (fun s₁ own hs₁ hown => ?_) s hs
  refine Run.Keeps.bind (rules.keeps_answerWith calls (rules.caller s₁ caller place arguments own
    hs₁ may hown) _ _ _) (fun _ => ?_) s₁ hs₁
  exact fun s' hs' => rules.parameters s s' hs hs'

/-- A sibling call starts in a store that holds the function that makes it. -/
theorem within_callSibling {s : Store guests} {module function : String} {type : Wasm.FuncType}
    (callee : ∀ i, (s.data.directory.get? module).bind (s.instances[·]?) = some i →
      ExportKeeps P Q i call function)
    (hs : P s) (held : s.functions[place]? = some (.host type (.sibling module function)))
    (may : May caller place arguments) (input inputLength pointerSlot lengthSlot : Word) :
    (callSibling module function call caller input inputLength pointerSlot lengthSlot s).Within
      P Q := by
  have calling : CallsSibling s module function := ⟨type, List.mem_of_getElem? held⟩
  have hnote := rules.sibling s module function hs calling
  have missing := rules.missing s module function hs calling
  have failed := rules.failed s module function
  unfold callSibling
  rw [Run.store_bind, note_bind]
  cases ht : (s.data.directory.get? module).bind (s.instances[·]?) with
  | none => exact ⟨hnote, missing ht⟩
  | some target =>
    refine rules.keeps_callingAllocator caller (fun s₁ own hs₁ hown => ?_) _ hnote
    have usable := rules.caller s₁ caller place arguments own hs₁ may hown
    refine Run.Keeps.bind (rules.keeps_readBuffer _ _ _) (fun input s₂ hs₂ => ?_) s₁ hs₁
    have within := keeps_callExport_of (callee target ht) input s₂ hs₂
    rw [Run.bind_apply]
    cases hcall : callExport target call function input s₂ with
    | stop why s₃ =>
      rw [hcall] at within
      exact within
    | value called s₃ =>
      rw [hcall] at within
      cases called with
      | error cause =>
        exact ⟨within, failed cause hs calling (fails_of_callExport (callee target ht) hs₂ hcall)⟩
      | ok output =>
        exact ((rules.keeps_answerWith calls usable _ _ _).bind fun _ => .of_pure _) s₃ within

/-- **The functions that guests import keep the property.** -/
theorem within_hostFunctions {s : Store guests} {type : Wasm.FuncType} {function : HostFunction}
    (callee : ∀ module name i, function = .sibling module name →
      (s.data.directory.get? module).bind (s.instances[·]?) = some i → ExportKeeps P Q i call name)
    (hs : P s) (held : s.functions[place]? = some (.host type function))
    (may : May caller place arguments) :
    (hostFunctions function call caller arguments s).Within P Q := by
  unfold hostFunctions
  split
  · exact rules.log s place type _ call caller _ _ _ _ _ hs held may
  · exact (rules.keeps_handOutParameters calls may _ _).bind (fun _ => .of_pure _) s hs
  · next module name input inputLength pointerSlot lengthSlot =>
    have h := rules.within_callSibling calls (fun i hi => callee module name i rfl hi) hs held may
      input inputLength pointerSlot lengthSlot
    exact h.bind fun _ => .of_pure _
  · exact ⟨hs, rules.lenient.trap⟩

end CallRules

namespace ConfinedRules

variable {May : Wasm.Calls} {P : Store guests → Prop} {Q : GuestStop → Prop}
  (rules : ConfinedRules May P Q)

include rules

theorem keep_hostFunctions : hostFunctions.Keep May P Q := by
  intro s place type function caller arguments hs held may call calls
  refine rules.within_hostFunctions calls (fun module name i hfunction hi => ?_) hs held may
  subst hfunction
  exact rules.exportKeeps calls (rules.callee s caller place type module name arguments i hs held
    may hi)

theorem keeps_invoke (regime : Wasm.Regime) (stack : Nat) :
    CallRules.CallsKeep May P Q (Wasm.invoke hostFunctions regime stack none) :=
  Wasm.keeps_invoke rules.lenient rules.inside rules.keep_hostFunctions regime stack none

end ConfinedRules

namespace GuestRules

variable {May : Wasm.Calls} {P : Store guests → Prop} {Q : GuestStop → Prop}
  (rules : GuestRules May P Q)

include rules

theorem usable (a : Allocator) : a.Usable May P where
  memory s := rules.steady.memory s a.memory
  allocate _ := rules.host _ _ (Nat.le_add_left 1 3)
  deallocate _ _ _ _ := rules.host _ _ (Nat.le_add_left 2 2)

theorem mayCall (i : Instance) (function : String) : MayCall May P i function where
  allocator _ a _ _ := rules.usable a
  exported place _ arguments h := rules.host place arguments (Nat.le_of_eq h)

theorem confined : ConfinedRules May P Q where
  toTolerant := rules.toTolerant
  inside := rules.guest.inside rules.steady
  caller _ _ _ _ a _ _ _ := rules.usable a
  callee _ _ _ _ _ function _ i _ _ _ _ := rules.mayCall i function
  log := rules.log
  buffer := rules.buffer
  parameters := rules.parameters
  sibling := rules.sibling
  missing := rules.missing
  failed := rules.failed

theorem keeps_callExport (regime : Wasm.Regime) (i : Instance) (function : String)
    (input : Bytes) :
    Run.Keeps P Q
      (callExport i (Wasm.invoke hostFunctions regime regime.stack none) function input) :=
  rules.confined.keeps_callExport (rules.confined.keeps_invoke regime regime.stack)
    (rules.mayCall i function) input

theorem within_instantiate (regime : Wasm.Regime) {m : Wasm.Module} {parts : List Wasm.Extern}
    {s : Store guests} (hs : P (m.allocate parts s)) :
    (m.instantiate hostFunctions regime parts s).Within P Q :=
  Wasm.within_instantiate rules.steady rules.lenient rules.guest
    (fun place => rules.host place [] (Nat.zero_le _)) rules.confined.keep_hostFunctions regime hs

end GuestRules

/-! ## Logging without regard to records -/

namespace LogRules

variable {P : Store guests → Prop} {Q : GuestStop → Prop} (rules : LogRules P Q)

include rules

theorem keeps_sendRecord (r : LogRecord) : Run.Keeps P Q (sendRecord r) := by
  refine .of_store fun s hs => ?_
  split
  · exact ⟨hs, rules.broken⟩
  · exact rules.records s r hs

theorem keeps_logMessage (logger : Logger) (caller : Option Nat)
    (level target targetLength message messageLength : Word) :
    Run.Keeps P Q
      (logMessage logger caller level target targetLength message messageLength) := by
  unfold logMessage
  split
  · refine (rules.keeps_callingMemory caller).bind fun memory => ?_
    refine (rules.keeps_readBuffer _ _ _).bind fun target => ?_
    refine (rules.keeps_readBuffer _ _ _).bind fun message => ?_
    split
    · exact rules.keeps_sendRecord _
    · exact .of_pure _
  · exact .of_pure _

theorem keeps_log (call : GuestCall) (position : Nat) (caller : Option Nat)
    (level target targetLength message messageLength : Word) :
    Run.Keeps P Q (hostFunctions (.log position) call caller
      [level, target, targetLength, message, messageLength]) := by
  refine .of_store fun s hs => ?_
  refine Run.Keeps.bind (.of_orStop rules.lenient.trap _) (fun logger => ?_) s hs
  refine (Tolerant.keeps_callingSnapshot caller).bind fun memory => ?_
  refine .bind (fun s hs => rules.free s _ trivial hs) fun _ => ?_
  exact (rules.keeps_logMessage logger caller _ _ _ _ _).bind fun _ => .of_pure _

/-- Buffers may pass. -/
theorem buffer {s : Store guests} {x : Exchange} (h : x.Buffer) (hs : P s) : P (noted x s) := by
  refine rules.free s x ?_ hs
  cases x with
  | allocated | freed => trivial
  | log | parameters | sibling => exact h.elim

end LogRules

/-- Any call may be made. -/
theorem GuestInvariant.rules {P : Store guests → Prop} {Q : GuestStop → Prop}
    (inv : GuestInvariant P Q) : GuestRules (fun _ _ _ => True) P Q where
  toHostRules := inv.toHostRules
  guest _ _ _ _ _ _ _ _ _ _ := trivial
  host _ _ _ := trivial
  log s _ _ position call caller _ _ _ _ _ hs _ _ :=
    inv.toLogRules.keeps_log call position caller _ _ _ _ _ s hs
  buffer _ _ h hs := inv.toLogRules.buffer h hs
  parameters := inv.parameters
  sibling := inv.sibling
  missing := inv.missing
  failed := inv.failed

end ModuleHost
