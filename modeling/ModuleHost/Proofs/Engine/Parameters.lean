import ModuleHost.Proofs.Engine.Exchanges
import ModuleHost.Proofs.Engine.Registration
import ModuleHost.Proofs.Wasm.Memory

/-!
# Call parameters belong to one call

* `HandedOver` — a guest holds bytes in a buffer of its own, and two slots tell where and how many;
* `handedOver_of_value` — so it does after the host handed out the parameters of the call;
* `Scoped` — the store of a service while a call runs; **`Scoped.guestInvariant`**: calls of its
  functions keep it;
* `Service.final_scoped`, `Service.registering_scoped` — what an invocation, a registration hands
  out;
* `Registry.Scopes` — what follows for calls, for registrations and between operations;
* **`Registry.scopes_after`**: it holds after every run.
-/

namespace ModuleHost

open Wasm (Word Run Store Instance Regime Module Apart)

/-! ## Handing out -/

/-- A memory holds bytes where the word in one slot points, as many as the word in another slot
tells: the bytes were written first, then the slots. -/
structure HandedOver (bytes : Bytes) (pointerSlot lengthSlot : Word) (memory : Wasm.Memory) :
    Prop where
  length : (UInt32.ofNat bytes.length).toNat = bytes.length
  written : ∃ (pointer : Word) (m₀ m₁ m₂ : Wasm.Memory), m₀.write? pointer.toNat bytes = some m₁ ∧
    m₁.write? pointerSlot.toNat (Word.bytes pointer) = some m₂ ∧
    m₂.write? lengthSlot.toNat (Word.bytes (UInt32.ofNat bytes.length)) = some memory

/-- What was written is there, unless the slots overlap the bytes or one another. -/
theorem read_of_written {bytes : Bytes} {pointer pointerSlot lengthSlot : Word}
    {m₀ m₁ m₂ memory : Wasm.Memory} (hbytes : m₀.write? pointer.toNat bytes = some m₁)
    (hpointer : m₁.write? pointerSlot.toNat (Word.bytes pointer) = some m₂)
    (hlength : m₂.write? lengthSlot.toNat (Word.bytes (UInt32.ofNat bytes.length)) = some memory) :
    memory.read? lengthSlot.toNat 4 = some (Word.bytes (UInt32.ofNat bytes.length)) ∧
      (Apart lengthSlot.toNat 4 pointerSlot.toNat 4 →
        memory.read? pointerSlot.toNat 4 = some (Word.bytes pointer)) ∧
      (Apart lengthSlot.toNat 4 pointer.toNat bytes.length →
        Apart pointerSlot.toNat 4 pointer.toNat bytes.length →
        memory.read? pointer.toNat bytes.length = some bytes) := by
  have hword (w : Word) : (Word.bytes w).length = 4 := rfl
  refine ⟨Wasm.Memory.read?_of_write? hlength, fun slots => ?_, fun away away' => ?_⟩
  · rw [Wasm.Memory.read?_of_write?_apart hlength (by rwa [hword])]
    exact Wasm.Memory.read?_of_write? hpointer
  · rw [Wasm.Memory.read?_of_write?_apart hlength (by rwa [hword]),
      Wasm.Memory.read?_of_write?_apart hpointer (by rwa [hword])]
    exact Wasm.Memory.read?_of_write? hbytes

/-- The bytes are there, unless the guest gave slots that overlap them or one another. -/
theorem HandedOver.read {bytes : Bytes} {pointerSlot lengthSlot : Word} {memory : Wasm.Memory}
    (h : HandedOver bytes pointerSlot lengthSlot memory) : ∃ pointer : Word,
      memory.read? lengthSlot.toNat 4 = some (Word.bytes (UInt32.ofNat bytes.length)) ∧
      (Apart lengthSlot.toNat 4 pointerSlot.toNat 4 →
        memory.read? pointerSlot.toNat 4 = some (Word.bytes pointer)) ∧
      (Apart lengthSlot.toNat 4 pointer.toNat bytes.length →
        Apart pointerSlot.toNat 4 pointer.toNat bytes.length →
        memory.read? pointer.toNat bytes.length = some bytes) := by
  obtain ⟨pointer, m₀, m₁, m₂, hbytes, hpointer, hlength⟩ := h.written
  exact ⟨pointer, read_of_written hbytes hpointer hlength⟩

section

variable {s s' : Store guests} {memory : Nat}

theorem writeAt_value {pointer : Word} {bytes : Bytes} {fault : AbiFault}
    (h : writeAt memory pointer bytes fault s = .value () s') :
    ∃ written, (memoryAt s memory).write? pointer.toNat bytes = some written ∧
      s' = { s with memories := s.memories.set memory written } := by
  unfold writeAt at h
  rw [Run.store_bind] at h
  cases hw : (memoryAt s memory).write? pointer.toNat bytes with
  | none =>
    rw [hw] at h
    cases h
  | some written =>
    rw [hw] at h
    cases h
    exact ⟨written, rfl, rfl⟩

theorem lt_of_write? {start : Nat} {bytes : Bytes} {written : Wasm.Memory}
    (h : (memoryAt s memory).write? start bytes = some written) (hbytes : bytes ≠ []) :
    memory < s.memories.length := by
  refine Nat.lt_of_not_le fun hle => ?_
  rw [memoryAt, List.getElem?_eq_none hle, Option.getD_none] at h
  unfold Wasm.Memory.write? at h
  split at h
  · next holds =>
    have hlength : 0 < bytes.length := List.length_pos_iff.2 hbytes
    have hsize : start + bytes.length ≤ 0 := by
      simpa [Wasm.Memory.holds, Wasm.Memory.size] using holds
    omega
  · cases h

theorem memoryAt_set {written : Wasm.Memory} (h : memory < s.memories.length) :
    memoryAt { s with memories := s.memories.set memory written } memory = written := by
  rw [memoryAt, List.getElem?_set_self h, Option.getD_some]

theorem write_value {a : Allocator} {call : GuestCall} {bytes : Bytes} {pointer : Word}
    (h : a.write call bytes s = .value pointer s') :
    bytes.length ≤ Allocator.maxLength ∧ ∃ (s₀ : Store guests) (written : Wasm.Memory),
      (memoryAt s₀ a.memory).write? pointer.toNat bytes = some written ∧
        s' = { s₀ with memories := s₀.memories.set a.memory written } := by
  unfold Allocator.write at h
  split at h
  · cases h
  · next hlength =>
    refine ⟨Nat.le_of_not_lt hlength, ?_⟩
    obtain ⟨results, s₁, -, h⟩ := Run.bind_eq_value.1 h
    obtain ⟨_, s₂, hnote, h⟩ := Run.bind_eq_value.1 h
    obtain ⟨_, s₃, hwrite, h⟩ := Run.bind_eq_value.1 h
    cases h
    obtain ⟨written, hw, rfl⟩ := writeAt_value hwrite
    exact ⟨s₂, written, hw, rfl⟩

/-- Three writes into a memory of a store are made one after another, the last two of some bytes. -/
theorem written_in_turn {m₁ m₂ m₃ : Wasm.Memory} {start₁ start₂ start₃ : Nat}
    {bytes₁ bytes₂ bytes₃ : Bytes} (nonempty : bytes₂ ≠ [])
    (h₁ : (memoryAt s memory).write? start₁ bytes₁ = some m₁)
    (h₂ : (memoryAt { s with memories := s.memories.set memory m₁ } memory).write? start₂ bytes₂ =
      some m₂)
    (h₃ : (memoryAt { s with memories := (s.memories.set memory m₁).set memory m₂ } memory).write?
      start₃ bytes₃ = some m₃) :
    (memoryAt s memory).write? start₁ bytes₁ = some m₁ ∧ m₁.write? start₂ bytes₂ = some m₂ ∧
      m₂.write? start₃ bytes₃ = some (memoryAt { s with
        memories := ((s.memories.set memory m₁).set memory m₂).set memory m₃ } memory) := by
  -- bytes went into the memory, so that it is there
  have hthere₁ : memory < (s.memories.set memory m₁).length := lt_of_write? h₂ nonempty
  have hthere : memory < s.memories.length := by rwa [List.length_set] at hthere₁
  have hthere₂ : memory < ((s.memories.set memory m₁).set memory m₂).length := by
    rwa [List.length_set]
  refine ⟨h₁, ?_, ?_⟩
  · rwa [memoryAt, List.getElem?_set_self hthere, Option.getD_some] at h₂
  · rw [memoryAt, List.getElem?_set_self hthere₁, Option.getD_some] at h₃
    rwa [memoryAt, List.getElem?_set_self hthere₂, Option.getD_some]

theorem handedOver_of_answerWith {own : Allocator} {call : GuestCall} {bytes : Bytes}
    {pointerSlot lengthSlot : Word}
    (h : answerWith own call bytes pointerSlot lengthSlot s = .value () s') :
    HandedOver bytes pointerSlot lengthSlot (memoryAt s' own.memory) := by
  obtain ⟨pointer, s₁, hbuffer, h⟩ := Run.bind_eq_value.1 h
  obtain ⟨_, s₂, hpointer, hlength⟩ := Run.bind_eq_value.1 h
  obtain ⟨hmax, s₀, m₁, hm₁, rfl⟩ := write_value hbuffer
  obtain ⟨m₂, hm₂, rfl⟩ := writeAt_value hpointer
  obtain ⟨m₃, hm₃, rfl⟩ := writeAt_value hlength
  have hlt : bytes.length < 2 ^ 32 := by
    simp only [Allocator.maxLength] at hmax
    omega
  exact ⟨UInt32.toNat_ofNat_of_lt' hlt, pointer, _, m₁, m₂,
    written_in_turn (List.cons_ne_nil _ _) hm₁ hm₂ hm₃⟩

/-- Parameters that are handed out are in the memory of the caller: it is told the place and the
length of the text of those that were in place. -/
theorem handedOver_of_value {call : GuestCall} {caller : Option Nat}
    {pointerSlot lengthSlot : Word} {results : List Word}
    (h : hostFunctions .callParameters call caller [pointerSlot, lengthSlot] s =
      .value results s') :
    let text := Text.bytes s.data.parameters.text
    results = [0] ∧ (∃ before, s'.data.exchanges = before ++ [.parameters text]) ∧
      ∃ own, Allocator.ofCaller s ((caller.bind (s.instances[·]?)).getD {}) = .ok own ∧
        HandedOver text pointerSlot lengthSlot (memoryAt s' own.memory) := by
  obtain ⟨_, s₁, hout, hresults⟩ := Run.bind_eq_value.1 h
  cases hresults
  unfold handOutParameters at hout
  rw [Run.store_bind] at hout
  obtain ⟨own, s₂, hown, hout⟩ := Run.bind_eq_value.1 hout
  obtain ⟨_, s₃, hanswer, hnote⟩ := Run.bind_eq_value.1 hout
  cases hnote
  refine ⟨rfl, ⟨s₃.data.exchanges, rfl⟩, own, ?_⟩
  change orRaise (Allocator.ofCaller s ((caller.bind (s.instances[·]?)).getD {})) s = _ at hown
  cases ha : Allocator.ofCaller s ((caller.bind (s.instances[·]?)).getD {}) with
  | error fault =>
    rw [ha] at hown
    cases hown
  | ok a =>
    rw [ha] at hown
    cases hown
    refine ⟨rfl, ?_⟩
    show HandedOver _ _ _ (memoryAt s₃ own.memory)
    exact handedOver_of_answerWith hanswer

end

/-! ## While a call runs -/

/-- Parameters that are handed out are those of a call. -/
def Exchange.HandsOut (p : CallParameters) : Exchange → Prop
  | .parameters handed => handed = Text.bytes p.text
  | .log .. | .sibling .. | .allocated .. | .freed .. => True

/-- The store of a service while a call with the parameters `p` runs. -/
structure Scoped (p : CallParameters) (s : Store guests) : Prop where
  parameters : s.data.parameters = p
  handed : ∀ x ∈ s.data.exchanges, x.HandsOut p

namespace Scoped

variable {p : CallParameters} {s : Store guests}

theorem note (h : Scoped p s) {x : Exchange} (hx : x.HandsOut p) : Scoped p (noted x s) := by
  refine ⟨h.parameters, fun y hy => ?_⟩
  rcases List.mem_append.1 hy with hy | hy
  · exact h.handed y hy
  · rwa [List.mem_singleton.1 hy]

/-- **Whatever guests do, the parameters stay in place and no others are handed out.** -/
theorem guestInvariant (p : CallParameters) : GuestInvariant (Scoped p) fun _ => True where
  steady := ⟨fun _ _ _ _ hs _ _ => ⟨hs.parameters, hs.handed⟩,
    fun _ _ _ _ hs _ => ⟨hs.parameters, hs.handed⟩⟩
  lenient := ⟨trivial, trivial, trivial⟩
  broken := trivial
  plain _ _ := trivial
  records _ _ hs := ⟨hs.parameters, hs.handed⟩
  free s x hx hs := by
    refine hs.note ?_
    cases x with
    | log | allocated | freed => trivial
    | parameters | sibling => exact hx.elim
  parameters s s' hs hs' := by
    refine hs'.note ?_
    rw [hs.parameters]
    rfl
  sibling _ _ _ hs _ := hs.note trivial
  missing _ _ _ _ _ _ := trivial
  failed _ _ _ _ _ _ _ := trivial

theorem registrationRules (p : CallParameters) :
    RegistrationRules (fun _ _ _ => True) (Scoped p) fun _ => True where
  toGuestRules := (guestInvariant p).rules
  logger _ _ hs := ⟨hs.parameters, hs.handed⟩
  functions _ _ hs := ⟨hs.parameters, hs.handed⟩
  allocate _ _ _ hs := ⟨hs.parameters, hs.handed⟩
  directory _ _ _ hs := ⟨hs.parameters, hs.handed⟩

end Scoped

namespace Service

/-- A call of a module hands out its own parameters, and takes them back unless it is broken off. -/
theorem callModule_scoped (regime : Regime) (m : RegisteredModule) (function arguments : String)
    (p : CallParameters) {s : Store guests} (hs : s.data.exchanges = []) :
    (∀ x ∈ (callModule regime m function arguments p s).store.data.exchanges, x.HandsOut p) ∧
      ∀ called s', callModule regime m function arguments p s = .value called s' →
        s'.data.parameters = {} := by
  have begun : Scoped p { s with data := { s.data with parameters := p } } :=
    ⟨rfl, fun x hx => by rw [hs] at hx; cases hx⟩
  have rules := (Scoped.guestInvariant p).rules
  have within := rules.keeps_callExport regime (s.instances.getD m.place {}) function
    (Text.bytes arguments) _ begun
  have hcall : callModule regime m function arguments p s =
      (callExport (s.instances.getD m.place {})
          (Wasm.invoke hostFunctions regime regime.stack none) function (Text.bytes arguments) >>=
        fun called => setParameters {} >>= fun _ => pure called)
        { s with data := { s.data with parameters := p } } := rfl
  rw [hcall, Run.bind_apply]
  cases hx : callExport (s.instances.getD m.place {})
      (Wasm.invoke hostFunctions regime regime.stack none) function (Text.bytes arguments)
      { s with data := { s.data with parameters := p } } with
  | value called s' =>
    rw [hx] at within
    exact ⟨within.handed, fun _ _ h => by cases h; rfl⟩
  | stop why s' =>
    rw [hx] at within
    exact ⟨within.1.handed, fun _ _ h => nomatch h⟩

theorem final_scoped {service : Service} (h : service.Settled) (regime : Regime)
    (module function arguments : String) (p : CallParameters) :
    ∀ x ∈ (service.final regime module function arguments p).data.exchanges, x.HandsOut p := by
  unfold final
  split
  · intro x hx
    rw [h.exchanges] at hx
    cases hx
  · exact (callModule_scoped regime _ function _ p h.exchanges).1

theorem registering_scoped (regime : Regime) (control : Module) (d : ServiceDescriptor)
    (sink : Sink) : Scoped {} (registering regime control d sink) := by
  have within := (Scoped.registrationRules {}).keeps_registerModules regime control d
    (freshStore d sink) ⟨rfl, fun x hx => nomatch hx⟩
  unfold registering
  cases hrun : (registerModules regime control d).run (freshStore d sink) with
  | value result s =>
    rw [hrun] at within
    exact within
  | stop why s =>
    rw [hrun] at within
    exact within.1

/-- The default parameters are in place and nothing is left of the operations before. -/
structure Idle (service : Service) : Prop extends service.Settled where
  parameters : service.store.data.parameters = {}

theorem built_idle : Built fun _ service => service.Idle := by
  intro regime control d sink service whole h
  have hscoped := registering_scoped regime control d sink
  refine ⟨lasting_settled.built regime control d sink service whole h, ?_⟩
  unfold build at h
  split at h
  · next modules s hrun =>
    cases h
    rw [registering, hrun] at hscoped
    exact hscoped.parameters
  · cases h
  · cases h

/-- An invocation that does not break the context leaves the default parameters in place. -/
theorem invoke_idle {service : Service} (h : service.Idle) (regime : Regime)
    (module function arguments : String) (p : CallParameters)
    (hresult : (service.invoke regime module function arguments p).result.isSome) :
    (service.invoke regime module function arguments p).state.Idle := by
  refine ⟨lasting_settled.invoked regime ⟨"", [], none⟩ service module function arguments p
    h.toSettled, ?_⟩
  unfold invoke at hresult ⊢
  revert hresult
  cases service.prepare module function arguments with
  | error cause => exact fun _ => h.parameters
  | ok prepared =>
    obtain ⟨m, ordered⟩ := prepared
    cases hc : callModule regime m function ordered p service.store with
    | stop why s =>
      simp only [hc]
      exact fun hresult => nomatch hresult
    | value called s =>
      simp only [hc]
      intro _
      have hp := (callModule_scoped regime m function ordered p h.exchanges).2 called s hc
      split <;> exact hp

end Service

/-! ## Runs -/

namespace Registry

variable {regime : Regime}

/-- In the registry `r` the parameters of a call are those of one call; `unbroken` tells whether no
operation before has broken the context. -/
structure Scopes (r : Registry (Engine.controlRuntime regime)) (unbroken : Prop) : Prop where
  /-- During a call any guest is handed the text of its parameters. -/
  call : ∀ id function args p handed,
    .parameters handed ∈ r.exchanges id function args p → handed = Text.bytes p.text
  /-- These exchanges are of the store in which the call ends: it emits the records of that store,
  and the service has that store from then on. -/
  called : ∀ id function args p,
    (r.callService id function args p).activity.records =
        ((r.final? id function args p).map (·.data.records)).getD [] ∧
      ∀ s, r.final? id function args p = some s →
        ∃ (e e' : Engine) (entry : ServiceEntry) (service : Service), r.runtime = some e ∧
          r.services.get? id = some entry ∧ e.services.get? entry.handle.number = some service ∧
          (r.callService id function args p).registry.runtime = some e' ∧
          e'.services.get? entry.handle.number = some (service.put s)
  /-- During a registration any guest is handed the text of the default ones. -/
  registration : ∀ (e : Engine) d sink handed, r.runtime = some e →
    .parameters handed ∈
        (Service.registering e.regime e.control d sink).data.exchanges →
      handed = Text.bytes ({} : CallParameters).text
  /-- These exchanges are of the store in which the registration ends: it emits the records of that
  store, and a service that is registered has that store. -/
  registered : ∀ d sink,
    (r.createService d sink).activity.records =
        ((r.registering? d sink).map (·.data.records)).getD [] ∧
      ∀ s, r.registering? d sink = some s → ∃ e : Engine, r.runtime = some e ∧
        s = Service.registering e.regime e.control d sink ∧
        ∀ service, (Service.build e.regime e.control d sink).result = some (.ok service) →
          service.store = settled s
  /-- A guest that is handed the parameters finds them where its slots tell, and the exchange is
  entered. -/
  handOut : ∀ (s s' : Store guests) call caller pointerSlot lengthSlot results,
    hostFunctions .callParameters call caller [pointerSlot, lengthSlot] s = .value results s' →
      let text := Text.bytes s.data.parameters.text
      results = [0] ∧ (∃ before, s'.data.exchanges = before ++ [.parameters text]) ∧
        ∃ own, Allocator.ofCaller s ((caller.bind (s.instances[·]?)).getD {}) = .ok own ∧
          HandedOver text pointerSlot lengthSlot (memoryAt s' own.memory)
  /-- Between operations the default ones are in place. -/
  idle : unbroken → ∀ (e : Engine) n service, r.runtime = some e →
    e.services.get? n = some service → service.store.data.parameters = {}

/-- **However operations end, no call observes the parameters of another.** -/
theorem scopes_after (regime : Regime) (as : List Action) :
    Scopes ((uninitialized : Registry (Engine.controlRuntime regime)).after as)
      ((uninitialized : Registry (Engine.controlRuntime regime)).Unbroken as) where
  call id function args p handed hmem := by
    have settled := settled_after regime as
    generalize (uninitialized : Registry (Engine.controlRuntime regime)).after as = r at hmem settled
    unfold Registry.exchanges at hmem
    rcases r.final?_cases id function args p with hnone |
      ⟨e, entry, service, arguments, he, -, hservice, hfinal⟩
    · rw [hnone] at hmem
      cases hmem
    · rw [hfinal] at hmem
      exact Service.final_scoped (settled e _ service he hservice) _ _ _ _ p _ hmem
  called id function args p :=
    ⟨callService_records (settled_after regime as) id function args p,
      fun s => callService_leaves (settled_after regime as)⟩
  registration e d sink handed _ hmem :=
    (Service.registering_scoped e.regime e.control d sink).handed _ hmem
  registered d sink := ⟨createService_records _ d sink, fun s hs => registering?_eq_some hs⟩
  handOut s s' call caller pointerSlot lengthSlot results h := handedOver_of_value h
  idle unbroken e n service he hservice := by
    have housed := housed_unbroken Service.built_idle
      (fun regime _ service module function arguments p h hresult =>
        Service.invoke_idle h regime module function arguments p hresult)
      as _ [] housed_uninitialized unbroken
    obtain ⟨_, idle⟩ := (housed.hosts e he).exists_descriptor hservice
    exact idle.parameters

end Registry

end ModuleHost
