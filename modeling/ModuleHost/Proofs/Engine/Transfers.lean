import ModuleHost.Proofs.Engine.Authorship
import ModuleHost.Proofs.Engine.Siblings

/-!
# Sibling calls copy

A sibling call copies its input out of the caller's memory, and the output of the sibling into a
buffer that the caller allocates. It writes nothing else but the place and the length of that
buffer, into two slots that the caller names.

* `SiblingCall` — an instance with a memory of its own that calls one before it with another;
* `SiblingCall.Transfer` — a call that returns, step by step;
* `SiblingCall.answer_eq_value`, `SiblingCall.unreturned_of_answer` — which calls return, and why
  the others do not;
* `Transfer.written_memory`, `Transfer.copied`, `Transfer.kept` — what the caller's memory holds;
* `SiblingCall.Transfers` — what a sibling call does;
* **`SiblingCall.transfers`**: wherever guest code runs, every sibling call does it;
* `SiblingCall.changes_sharing` — a sibling that finds a function of its caller in a table.
-/

namespace ModuleHost

open Wasm (Word Store Run Instance FuncType Regime Ended Instr Frame Activation Apart
  functionInSlot)

/-- An instance that calls a function of a sibling, each with a memory of its own. -/
structure SiblingCall (s : Store guests) where
  /-- The place of the instance that calls. -/
  caller : Nat
  inst : Instance
  /-- The place of the function that it imports. -/
  place : Nat
  type : FuncType
  module : String
  function : String
  /-- The place of the sibling. -/
  home : Nat
  target : Instance
  /-- The memory that the caller exports. -/
  memory : Nat
  siblingMemory : Nat
  calling : s.instances[caller]? = some inst
  imported : place ∈ inst.functions
  held : s.functions[place]? = some (.host type (.sibling module function))
  found : s.data.directory.get? module = some home
  called : s.instances[home]? = some target
  exported : exportedMemory? s inst = some memory
  owned : Owns s caller (.memory memory)
  siblingOwned : Owns s home (.memory siblingMemory)

namespace SiblingCall

variable {s s' : Store guests} (c : SiblingCall s)

/-- The store when the call has been noted. -/
def asked : Store guests := noted (.sibling c.module c.function (some c.home)) s

/-- The call with the arguments that the guest passes. -/
def run (regime : Regime) (stack : Nat) (input inputLength pointerSlot lengthSlot : Word) :
    Ended guests (List Word) :=
  Wasm.invoke hostFunctions regime stack (some c.caller) c.place
    [input, inputLength, pointerSlot, lengthSlot] s

/-- What the host does about it, calling guests by `call`. -/
def answer (call : GuestCall) (input inputLength pointerSlot lengthSlot : Word) :
    Ended guests Int32 :=
  callSibling c.module c.function call (some c.caller) input inputLength pointerSlot lengthSlot s

/-- A call that returns with the store `s'`: the host reads the input, calls the sibling and writes
its output into a buffer that the caller allocates, then the place and the length of the buffer
into the slots. -/
structure Transfer (call : GuestCall) (input inputLength pointerSlot lengthSlot : Word)
    (s' : Store guests) where
  own : Allocator
  sent : Bytes
  output : RawOutput
  /-- Where the caller gets the output. -/
  pointer : Word
  /-- The store when the sibling has returned -/
  served : Store guests
  /-- and when the caller has allocated the buffer. -/
  reserved : Store guests
  allocator : Allocator.ofCaller s c.inst = .ok own
  read : Buffered (memoryAt s c.memory) input inputLength sent
  ran : callExport c.target call c.function sent c.asked = .value (.ok output) served
  allocated : own.Does call (.allocates output.bytes.length pointer) served reserved
  written : own.Course call [.writes pointer output.bytes, .writes pointerSlot (Word.bytes pointer),
    .writes lengthSlot (Word.bytes (UInt32.ofNat output.bytes.length))] reserved s'

/-- Guest code that the host runs for the call does not come back. -/
inductive Unreturned (call : GuestCall) (input inputLength : Word) :
    GuestStop → Store guests → Prop
  | sibling {sent : Bytes} {why : GuestStop} {s' : Store guests}
      (read : Buffered (memoryAt s c.memory) input inputLength sent)
      (stops : callExport c.target call c.function sent c.asked = .stop why s') :
      Unreturned call input inputLength why s'
  | allocator {own : Allocator} {sent : Bytes} {output : RawOutput} {served : Store guests}
      {why : GuestStop} {s' : Store guests}
      (allocator : Allocator.ofCaller s c.inst = .ok own)
      (read : Buffered (memoryAt s c.memory) input inputLength sent)
      (ran : callExport c.target call c.function sent c.asked = .value (.ok output) served)
      (stops : call own.allocate [UInt32.ofNat output.bytes.length] served = .stop why s') :
      Unreturned call input inputLength why s'

variable {c} {call : GuestCall} {input inputLength pointerSlot lengthSlot : Word}

/-! ## Returns and stops -/

theorem memory_of_ofCaller {own : Allocator} (h : Allocator.ofCaller s c.inst = .ok own) :
    own.memory = c.memory :=
  Option.some.inj ((Allocator.of_ofCaller h).memory.symm.trans c.exported)

theorem answer_apply :
    c.answer call input inputLength pointerSlot lengthSlot =
      match Allocator.ofCaller s c.inst with
      | .error fault => .stop (.raised fault) c.asked
      | .ok own =>
        match bufferIn (memoryAt s own.memory) input inputLength with
        | .error fault => .stop (.raised fault) c.asked
        | .ok sent =>
          match callExport c.target call c.function sent c.asked with
          | .stop why s' => .stop why s'
          | .value (.error cause) s' => .stop (.raised (.sibling cause)) s'
          | .value (.ok output) s' =>
            (answerWith own call output.bytes pointerSlot lengthSlot >>= fun _ =>
              pure output.status) s' := by
  have hcaller : Allocator.ofCaller c.asked
      (((some c.caller).bind (c.asked.instances[·]?)).getD {}) = Allocator.ofCaller s c.inst := by
    have hinst : c.asked.instances[c.caller]? = some c.inst := c.calling
    rw [Option.bind_some, hinst]
    rfl
  have hasked : c.asked =
      noted (.sibling c.module c.function (s.data.directory.get? c.module)) s := by
    rw [c.found]
    rfl
  have happly := callSibling_apply c.function hasked call (some c.caller) input inputLength
    pointerSlot lengthSlot
  rw [c.found, Option.bind_some, c.called, hcaller] at happly
  exact happly

theorem answer_eq_value {status : Int32} :
    c.answer call input inputLength pointerSlot lengthSlot = .value status s' ↔
      ∃ t : c.Transfer call input inputLength pointerSlot lengthSlot s',
        status = t.output.status := by
  rw [answer_apply]
  constructor
  · intro h
    split at h
    · cases h
    · next own hown =>
      rw [memory_of_ofCaller hown] at h
      split at h
      · cases h
      · next sent hread =>
        split at h
        · cases h
        · cases h
        · next output served hran =>
          obtain ⟨_, s₁, hanswer, hstatus⟩ := Run.bind_eq_value.1 h
          cases hstatus
          obtain ⟨pointer, course⟩ := Allocator.answerWith_eq_value.1 hanswer
          obtain ⟨reserved, allocated, written⟩ := Allocator.course_cons.1 course
          exact ⟨⟨own, sent, output, pointer, served, reserved, hown, bufferIn_eq_ok.1 hread,
            hran, allocated, written⟩, rfl⟩
  · rintro ⟨t, rfl⟩
    have hanswer := Allocator.answerWith_eq_value.2 ⟨t.pointer, .step t.allocated t.written⟩
    rw [t.allocator]
    dsimp only
    rw [memory_of_ofCaller t.allocator, bufferIn_eq_ok.2 t.read]
    dsimp only
    rw [t.ran]
    exact Run.bind_of_value hanswer _

theorem traps_of_writeAt {memory : Nat} {pointer : Word} {bytes : Bytes} {fault : AbiFault}
    {why : GuestStop} (h : writeAt memory pointer bytes fault s = .stop why s') :
    why.Traps := by
  unfold writeAt at h
  rw [Run.store_bind] at h
  cases hw : (memoryAt s memory).write? pointer.toNat bytes with
  | some written =>
    rw [hw] at h
    cases h
  | none =>
    rw [hw] at h
    cases h
    trivial

/-- Bytes are handed to a guest unless its allocator does not come back. -/
theorem traps_of_answerWith {own : Allocator} {bytes : Bytes} {why : GuestStop}
    (h : answerWith own call bytes pointerSlot lengthSlot s = .stop why s') :
    why.Traps ∨ call own.allocate [UInt32.ofNat bytes.length] s = .stop why s' := by
  rcases Run.bind_eq_stop.1 h with hbuffer | ⟨pointer, s₁, -, hslots⟩
  · unfold Allocator.write at hbuffer
    split at hbuffer
    · cases hbuffer
      exact .inl trivial
    · rcases Run.bind_eq_stop.1 hbuffer with hallocate | ⟨results, s₁, -, hwrite⟩
      · exact .inr hallocate
      · rw [note_bind] at hwrite
        rcases Run.bind_eq_stop.1 hwrite with hwrite | ⟨_, _, _, hpure⟩
        · exact .inl (traps_of_writeAt hwrite)
        · cases hpure
  · rcases Run.bind_eq_stop.1 hslots with hpointer | ⟨_, s₂, -, hlength⟩
    · exact .inl (traps_of_writeAt hpointer)
    · exact .inl (traps_of_writeAt hlength)

/-- A call that does not return traps, if guest code that runs for it comes back. -/
theorem unreturned_of_answer {why : GuestStop}
    (h : c.answer call input inputLength pointerSlot lengthSlot = .stop why s') :
    why.Traps ∨ c.Unreturned call input inputLength why s' := by
  rw [answer_apply] at h
  split at h
  · cases h
    exact .inl trivial
  · next own hown =>
    rw [memory_of_ofCaller hown] at h
    split at h
    · cases h
      exact .inl trivial
    · next sent hread =>
      have read := bufferIn_eq_ok.1 hread
      split at h
      · next hran =>
        cases h
        exact .inr (.sibling read hran)
      · cases h
        exact .inl trivial
      · next output served hran =>
        rcases Run.bind_eq_stop.1 h with hanswer | ⟨_, _, _, hpure⟩
        · exact (traps_of_answerWith hanswer).imp_right (.allocator hown read hran)
        · cases hpure

/-! ## The memory of the caller -/

namespace Transfer

variable (t : c.Transfer call input inputLength pointerSlot lengthSlot s')

theorem written_memory : ∃ m₁ m₂,
    (memoryAt t.reserved c.memory).write? t.pointer.toNat t.output.bytes = some m₁ ∧
      m₁.write? pointerSlot.toNat (Word.bytes t.pointer) = some m₂ ∧
      m₂.write? lengthSlot.toNat (Word.bytes (UInt32.ofNat t.output.bytes.length)) =
        some (memoryAt s' c.memory) := by
  rw [← memory_of_ofCaller t.allocator]
  exact Allocator.memory_of_writes (List.cons_ne_nil _ _) t.written

theorem length_lt : t.output.bytes.length < UInt32.size := by
  obtain ⟨fits, -⟩ := Allocator.does_allocates.1 t.allocated
  simp only [Allocator.maxLength, UInt32.size] at fits ⊢
  omega

/-- The buffer has the output and the slots tell its place and its length. -/
theorem copied (apart : Apart t.pointer.toNat t.output.bytes.length pointerSlot.toNat 4)
    (apart' : Apart t.pointer.toNat t.output.bytes.length lengthSlot.toNat 4)
    (slots : Apart pointerSlot.toNat 4 lengthSlot.toNat 4) :
    (memoryAt s' c.memory).read? t.pointer.toNat t.output.bytes.length = some t.output.bytes ∧
      wordIn? (memoryAt s' c.memory) pointerSlot = some t.pointer ∧
      (wordIn? (memoryAt s' c.memory) lengthSlot).map (·.toNat) = some t.output.bytes.length := by
  obtain ⟨m₁, m₂, hbytes, hpointer, hlength⟩ := t.written_memory
  obtain ⟨length, pointer, bytes⟩ := read_of_written hbytes hpointer hlength
  refine ⟨bytes apart'.symm apart.symm, ?_, ?_⟩
  · rw [wordIn?, pointer slots.symm, Option.map_some, Word.ofBytes_bytes]
  · rw [wordIn?, length, Option.map_some, Word.ofBytes_bytes, Option.map_some,
      UInt32.toNat_ofNat_of_lt' t.length_lt]

/-- Behind the allocation of the buffer, no other byte changes, nor does the size. -/
theorem kept : (memoryAt s' c.memory).pages = (memoryAt t.reserved c.memory).pages ∧
    ∀ address, (address < t.pointer.toNat ∨ t.pointer.toNat + t.output.bytes.length ≤ address) →
      (address < pointerSlot.toNat ∨ pointerSlot.toNat + 4 ≤ address) →
      (address < lengthSlot.toNat ∨ lengthSlot.toNat + 4 ≤ address) →
      (memoryAt s' c.memory).get address = (memoryAt t.reserved c.memory).get address := by
  obtain ⟨m₁, m₂, hbytes, hpointer, hlength⟩ := t.written_memory
  constructor
  · rw [Wasm.Memory.pages_of_write? hlength, Wasm.Memory.pages_of_write? hpointer,
      Wasm.Memory.pages_of_write? hbytes]
  · intro address outside outside' outside''
    rw [Wasm.Memory.get_of_write? hlength outside'', Wasm.Memory.get_of_write? hpointer outside',
      Wasm.Memory.get_of_write? hbytes outside]

end Transfer

/-! ## What a sibling call does -/

/-- What a call of a sibling does. -/
structure Transfers (c : SiblingCall s) (modules : List ModuleDescriptor) (regime : Regime)
    (stack : Nat) (input inputLength pointerSlot lengthSlot : Word) : Prop where
  earlier : c.home < c.caller
  /-- It returns with the status of the sibling exactly if all its steps are made. -/
  returned : ∀ results s',
    c.run regime stack input inputLength pointerSlot lengthSlot = .value results s' ↔
      Wasm.crossingBytes ≤ stack ∧ ∃ t : c.Transfer
        (Wasm.invoke hostFunctions regime (stack - Wasm.crossingBytes) none)
        input inputLength pointerSlot lengthSlot s', results = [t.output.status.toUInt32]
  /-- Then the caller's memory has the output, if its places do not overlap. -/
  copied : ∀ s' (t : c.Transfer
      (Wasm.invoke hostFunctions regime (stack - Wasm.crossingBytes) none)
      input inputLength pointerSlot lengthSlot s'),
    Apart t.pointer.toNat t.output.bytes.length pointerSlot.toNat 4 →
    Apart t.pointer.toNat t.output.bytes.length lengthSlot.toNat 4 →
    Apart pointerSlot.toNat 4 lengthSlot.toNat 4 →
      (memoryAt s' c.memory).read? t.pointer.toNat t.output.bytes.length = some t.output.bytes ∧
        wordIn? (memoryAt s' c.memory) pointerSlot = some t.pointer ∧
        (wordIn? (memoryAt s' c.memory) lengthSlot).map (·.toNat) = some t.output.bytes.length
  /-- Once the buffer is allocated, no other byte of it changes. -/
  kept : ∀ s' (t : c.Transfer
      (Wasm.invoke hostFunctions regime (stack - Wasm.crossingBytes) none)
      input inputLength pointerSlot lengthSlot s'),
    (memoryAt s' c.memory).pages = (memoryAt t.reserved c.memory).pages ∧
      ∀ address, (address < t.pointer.toNat ∨ t.pointer.toNat + t.output.bytes.length ≤ address) →
        (address < pointerSlot.toNat ∨ pointerSlot.toNat + 4 ≤ address) →
        (address < lengthSlot.toNat ∨ lengthSlot.toNat + 4 ≤ address) →
        (memoryAt s' c.memory).get address = (memoryAt t.reserved c.memory).get address
  /-- Before, while the sibling runs, none does if the module that calls and those behind it are
  secluded. -/
  spared : (∀ i, c.caller ≤ i → i < s.instances.length → secludes modules i) →
    ∀ s' (t : c.Transfer
      (Wasm.invoke hostFunctions regime (stack - Wasm.crossingBytes) none)
      input inputLength pointerSlot lengthSlot s'),
    memoryAt t.served c.memory = memoryAt s c.memory
  /-- In any case the caller's own code changes it then, or the host in its buffers. -/
  changed : ∀ s' (t : c.Transfer
      (Wasm.invoke hostFunctions regime (stack - Wasm.crossingBytes) none)
      input inputLength pointerSlot lengthSlot s'),
    Authored regime s c.caller c.memory t.served
  /-- Otherwise the code that calls it traps, unless guest code does not come back. -/
  trapped : (¬ ∃ results s',
      c.run regime stack input inputLength pointerSlot lengthSlot = .value results s') →
    ∃ why s', c.run regime stack input inputLength pointerSlot lengthSlot = .stop why s' ∧
      (why.Traps ∨ c.Unreturned
        (Wasm.invoke hostFunctions regime (stack - Wasm.crossingBytes) none)
        input inputLength why s') ∧
      ∀ (a : Activation guests) (rest : List Instr) (f : Frame),
        a.call = Wasm.invoke hostFunctions regime stack (some c.caller) →
        (f.operands.take c.type.params.length).reverse =
          [input, inputLength, pointerSlot, lengthSlot] →
        (∀ k, a.home.functions[k]? = some c.place →
          Instr.runAll a (.call k :: rest) f s = .stop why s') ∧
        ∀ type table slot, functionInSlot a.home type table slot s = .value c.place s →
          Instr.runAll a (.callIndirect type table :: rest) (f.push slot) s = .stop why s'
  /-- The sibling's memory is written by its own code and by the host in its buffers. -/
  authored : Authored regime s c.home c.siblingMemory
    (c.run regime stack input inputLength pointerSlot lengthSlot).store

/-- A call crosses to the host if there is stack for it. -/
theorem run_apply (regime : Regime) (stack : Nat) :
    c.run regime stack input inputLength pointerSlot lengthSlot =
      if stack < Wasm.crossingBytes then .stop .trap s
      else (callSibling c.module c.function
        (Wasm.invoke hostFunctions regime (stack - Wasm.crossingBytes) none) (some c.caller)
        input inputLength pointerSlot lengthSlot >>= fun status => pure [status.toUInt32]) s :=
  Wasm.invoke_of_host c.held

/-- **Sibling calls copy and touch nothing else**, wherever guest code runs. -/
theorem transfers {regime : Regime} {bytes : Bytes} {e : Engine}
    (compiled : Engine.compile regime bytes = .ok e) {id : String} {modules : ModuleSet}
    {config : Option ServiceConfig} {envs : Option Envs} {d : ServiceDescriptor}
    (resolved : ServiceDescriptor.resolve id modules config envs = .ok d) {sink : Sink}
    {done : List ModuleDescriptor} (running : Running e.regime e.control d sink done s)
    (c : SiblingCall s) (stack : Nat) (input inputLength pointerSlot lengthSlot : Word) :
    c.Transfers d.modules e.regime stack input inputLength pointerSlot lengthSlot := by
  obtain ⟨back, stacked⟩ := running.backwards (Engine.compile_whole compiled)
    (ServiceDescriptor.nodup_names resolved)
  have earlier : c.home < c.caller := by
    obtain ⟨behind, hlt, provides⟩ :=
      back.calls c.caller c.inst c.place c.type c.module c.function c.calling c.imported c.held
    rwa [Option.some.inj (c.found.symm.trans provides.directory)]
  have guarded := (running.guarded (Engine.compile_whole compiled)).1
  have asked : Evolves s c.asked := { Evolves.refl s with }
  constructor
  case earlier => exact earlier
  case returned =>
    intro results s'
    rw [run_apply]
    split
    · next hstack =>
      refine ⟨(nomatch ·), fun ⟨enough, _⟩ => absurd enough (Nat.not_le_of_lt hstack)⟩
    · next hstack =>
      rw [Run.bind_eq_value]
      constructor
      · rintro ⟨status, s₁, hcall, hresults⟩
        cases hresults
        obtain ⟨t, rfl⟩ := answer_eq_value.1 hcall
        exact ⟨Nat.le_of_not_lt hstack, t, rfl⟩
      · rintro ⟨-, t, rfl⟩
        exact ⟨_, s', answer_eq_value.2 ⟨t, rfl⟩, rfl⟩
  case copied => exact fun s' t => t.copied
  case kept => exact fun s' t => t.kept
  case spared =>
    intro secluded s' t
    have behind : SecludedBehind d.modules c.asked (c.caller - 1) := fun i hlt =>
      secluded i (by omega)
    have confined := (back.evolve asked).confined_callExport (guarded.evolve asked) behind e.regime
      (stack - Wasm.crossingBytes) (Nat.le_sub_one_of_lt earlier) c.called c.function t.sent
    rw [t.ran] at confined
    have same : t.served.memories[c.memory]? = s.memories[c.memory]? :=
      confined.spares.memories c.caller c.memory (Nat.sub_one_lt_of_lt earlier) c.owned
    rw [memoryAt, memoryAt, same]
  case changed =>
    intro s' t
    have begun : Authored e.regime s c.caller c.memory c.asked := Authored.start.other asked rfl
    have authored := c.owned.authored_callExport stacked c.called (stack - Wasm.crossingBytes)
      c.function t.sent begun
    rwa [t.ran] at authored
  case trapped =>
    intro unanswered
    cases hrun : c.run e.regime stack input inputLength pointerSlot lengthSlot with
    | value results s' => exact absurd ⟨results, s', hrun⟩ unanswered
    | stop why s' =>
      refine ⟨why, s', rfl, ?_, fun a rest f hcall harguments => ?_⟩
      · rw [run_apply] at hrun
        split at hrun
        · cases hrun
          exact .inl trivial
        · rcases Run.bind_eq_stop.1 hrun with hstop | ⟨_, _, _, hpure⟩
          · exact unreturned_of_answer hstop
          · cases hpure
      · have stops : a.call c.place (f.operands.take c.type.params.length).reverse s =
            .stop why s' := by
          rw [hcall]
          exact (congrArg (Wasm.invoke _ _ _ _ _ · s) harguments).trans hrun
        exact ⟨fun k hplace => Wasm.runAll_of_call_stop hplace c.held stops rest,
          fun type table slot found => Wasm.runAll_of_callIndirect_stop found c.held stops rest⟩
  case authored =>
    have foreign : some c.caller ≠ some c.home :=
      fun h => Nat.ne_of_gt earlier (Option.some.inj h)
    exact c.siblingOwned.authored_invoke stacked stack foreign c.place _ .start

/-! ## A service whose second module calls the first one -/

theorem instances_relayed : (standing relayed).instances =
    [{},
      { functions := [2, 3, 4]
        memories := [0]
        globals := [0]
        exports := [("memory", .memory 0), ("allocate", .func 2), ("deallocate", .func 3),
          ("e", .func 4)] },
      { functions := [7, 8, 9]
        memories := [1]
        globals := [1]
        exports := [("memory", .memory 1), ("allocate", .func 8), ("g", .func 7),
          ("f", .func 9)] }] := by
  decide +kernel

/-- Whether there is a function and it calls a sibling. -/
def calls? (module function : String) : Option (Wasm.FunctionInstance guests) → Bool
  | some (.host type (.sibling module' function')) =>
    type = callableType && module' = module && function' = function
  | _ => false

theorem eq_of_calls {module function : String} {f : Option (Wasm.FunctionInstance guests)}
    (h : calls? module function f) :
    f = some (.host callableType (.sibling module function)) := by
  unfold calls? at h
  split at h
  · simp only [Bool.and_eq_true, decide_eq_true_eq] at h
    obtain ⟨⟨rfl, rfl⟩, rfl⟩ := h
    rfl
  · cases h

theorem owns_relayed {home place : Nat} {inst : Instance}
    (hinst : (standing relayed).instances[home]? = some inst) (hplace : place ∈ inst.memories) :
    Owns (standing relayed) home (.memory place) := by
  refine ⟨⟨inst, hinst, hplace⟩, fun name => ?_⟩
  rw [instances_relayed]
  exact nofun

/-- The call of the function of the first module by the second one. -/
def relayedCall : SiblingCall (standing relayed) where
  caller := 2
  inst := (standing relayed).instances.getD 2 {}
  place := 7
  type := callableType
  module := "m"
  function := "e"
  home := 1
  target := (standing relayed).instances.getD 1 {}
  memory := 1
  siblingMemory := 0
  calling := by rw [instances_relayed]; rfl
  imported := by rw [instances_relayed]; decide
  held := eq_of_calls (by decide +kernel)
  found := by decide +kernel
  called := by rw [instances_relayed]; rfl
  exported := by decide +kernel
  owned := owns_relayed (by rw [instances_relayed]; rfl) (by decide)
  siblingOwned := owns_relayed (by rw [instances_relayed]; rfl) (by decide)

/-- The results of a call that returns. -/
def results? : Ended guests (List Word) → Option (List Word)
  | .value results _ => some results
  | .stop .. => none

theorem eq_of_results {ended : Ended guests (List Word)} {results : List Word}
    (h : results? ended = some results) : ∃ s', ended = .value results s' := by
  cases ended with
  | value results' s' =>
    cases h
    exact ⟨s', rfl⟩
  | stop why s' => cases h

theorem transfers_relayed : ∃ e : Engine,
    Engine.compile {} [0, 97, 115, 109, 1, 0, 0, 0] = .ok e ∧
      ServiceDescriptor.resolve "s" [("m", .owned Registry.echo), ("n", .owned relay)] none none =
        .ok relayed ∧
      Running e.regime e.control relayed .total relayed.modules (standing relayed) ∧
      relayedCall.Transfers relayed.modules e.regime e.regime.stack 0 3 16 20 ∧
      (∃ s', relayedCall.run e.regime e.regime.stack 0 3 16 20 = .value [0] s') ∧
      ∀ i, relayedCall.caller ≤ i → i < (standing relayed).instances.length →
        secludes relayed.modules i := by
  have compiled : Engine.compile {} [0, 97, 115, 109, 1, 0, 0, 0] =
      .ok { regime := {}, control := {} } := rfl
  obtain ⟨service, built⟩ := exists_build_relayed
  have running : Running {} {} relayed .total relayed.modules (standing relayed) :=
    standing_of_build built ▸ .of_build built
  have returns : results? (relayedCall.run {} ({} : Regime).stack 0 3 16 20) = some [0] := by
    decide +kernel
  have secluded : ∀ i, relayedCall.caller ≤ i → i < (standing relayed).instances.length →
      secludes relayed.modules i := by
    intro i hi hlt
    rw [instances_relayed] at hlt
    obtain rfl : i = 2 := Nat.le_antisymm (Nat.le_of_lt_succ hlt) hi
    decide +kernel
  exact ⟨_, compiled, resolve_relayed, running,
    transfers compiled resolve_relayed running relayedCall _ 0 3 16 20, eq_of_results returns,
    secluded⟩

/-- The call of the function of the first module by the second one, in a service whose modules share
a table. -/
def sharingCall : SiblingCall (standing sharing tabledControl) where
  caller := 2
  inst := (standing sharing tabledControl).instances.getD 2 {}
  place := 6
  type := callableType
  module := "m"
  function := "f"
  home := 1
  target := (standing sharing tabledControl).instances.getD 1 {}
  memory := 1
  siblingMemory := 0
  calling := by rw [instances_sharing]; rfl
  imported := by rw [instances_sharing]; decide
  held := eq_of_calls (by decide +kernel)
  found := by decide +kernel
  called := by rw [instances_sharing]; rfl
  exported := by decide +kernel
  owned := owns_sharing (by rw [instances_sharing]; rfl) (by decide)
  siblingOwned := owns_sharing (by rw [instances_sharing]; rfl) (by decide)

/-- **Through a table that they share, a sibling changes the memory of the module that calls it**,
before that one allocates the buffer. -/
theorem changes_sharing : ∃ e : Engine,
    Engine.compile {} tabled = .ok e ∧
      ServiceDescriptor.resolve "s" [("m", .owned borrowing), ("n", .owned lending)] none
        (some (Dict.empty.insert logVariable "n=trace")) = .ok sharing ∧
      Running e.regime e.control sharing .total sharing.modules (standing sharing tabledControl) ∧
      ∃ (s' : Store guests) (t : sharingCall.Transfer
          (Wasm.invoke hostFunctions e.regime (e.regime.stack - Wasm.crossingBytes) none)
          0 0 48 52 s'),
        sharingCall.run e.regime e.regime.stack 0 0 48 52 = .value [0] s' ∧
          (memoryAt (standing sharing tabledControl) sharingCall.memory).get 32 = 48 ∧
          (memoryAt t.served sharingCall.memory).get 32 = 49 ∧
          (memoryAt s' sharingCall.memory).get 32 = 49 := by
  obtain ⟨service, built⟩ := exists_build_sharing
  have running : Running {} tabledControl sharing .total sharing.modules
      (standing sharing tabledControl) :=
    standing_of_build built ▸ .of_build built
  have returns : results? (sharingCall.run {} ({} : Regime).stack 0 0 48 52) = some [0] := by
    decide +kernel
  have after : (memoryAt (sharingCall.run {} ({} : Regime).stack 0 0 48 52).store 1).get 32 =
      49 := by
    decide +kernel
  have served : (memoryAt (callExport sharingCall.target (Wasm.invoke hostFunctions {}
      (({} : Regime).stack - Wasm.crossingBytes) none) "f" [] sharingCall.asked).store 1).get 32 =
        49 := by
    decide +kernel
  obtain ⟨s', hrun⟩ := eq_of_results returns
  rw [hrun] at after
  have hreturned := hrun
  rw [run_apply, if_neg (by decide), Run.bind_eq_value] at hreturned
  obtain ⟨status, s₁, hanswer, hresults⟩ := hreturned
  obtain rfl : s₁ = s' := congrArg Wasm.Ended.store hresults
  obtain ⟨t, -⟩ := answer_eq_value.1 hanswer
  -- nothing is sent, so that the call of the sibling can be computed
  have ran := t.ran
  rw [show t.sent = [] from t.read.bytes] at ran
  change callExport sharingCall.target _ "f" [] sharingCall.asked = _ at ran
  rw [ran] at served
  exact ⟨_, compile_tabled, resolve_sharing, running, s₁, t, hrun,
    by decide +kernel, served, after⟩

end SiblingCall

end ModuleHost
