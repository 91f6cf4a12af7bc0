import ModuleHost.Proofs.Engine.Facade
import ModuleHost.Proofs.Engine.Parameters

/-!
# Operations that fail leave no trace

An operation that sets up the registry or a service either succeeds or changes nothing. The same
holds of a call that is refused before its function is found and its arguments fit, and such a call
runs no guest code.

* `HostError.IsEarly`, `Reply.Refuses` — the errors of calls that come before guest code; the
  replies of operations that fail before anything is done;
* `Service.invokeWith` — an invocation over any way of calling guest functions;
* `Service.invokeWith_early` — one that fails early has nothing to do with how guests are called;
* `Registry.Traceless`, **`Registry.traceless_after`**: in every reachable state operations that
  fail leave no trace.
-/

namespace ModuleHost

open Wasm (Store Run Regime)

/-- A guest error that is found before guest code runs. -/
def GuestError.IsEarly : GuestError → Prop
  | .missingFunction _ | .argumentMismatch .. => True
  | .fault .. | .failed .. => False

/-- An error of a call that is found before guest code runs. -/
def HostError.IsEarly : HostError → Prop
  | .notInitialized | .terminated | .serviceNotFound _ | .marshal (.unrepresentable ..) => True
  | .guest cause => cause.IsEarly
  | _ => False

/-- An operation failed: a call early, any other for whatever reason. -/
def Reply.Refuses : Reply → Prop
  | .done (.error _) => True
  | .value (.error cause) => cause.IsEarly
  | _ => False

/-! ## Exports that are not there -/

theorem callExport_of_none {i : Wasm.Instance} {function : String}
    (h : exportedFunction? i function = none) (call : GuestCall) (input : Bytes) :
    callExport i call function input = pure (.error (.missingFunction function)) := by
  rw [callExport, h]

theorem fault_of_callExport {i : Wasm.Instance} {function : String} {place : Nat}
    (h : exportedFunction? i function = some place) {call : GuestCall} {input : Bytes}
    {s s' : Store guests} {cause : GuestError}
    (hcall : callExport i call function input s = .value (.error cause) s') :
    ∃ message, cause = .fault function message := by
  unfold callExport at hcall
  rw [h] at hcall
  obtain ⟨result, s₁, -, hresult⟩ := Run.bind_eq_value.1 hcall
  cases result with
  | ok output => cases hresult
  | error why =>
    cases hresult
    exact ⟨stopText why, rfl⟩

theorem RawOutput.fault_of_envelope {function : String} {output : RawOutput} {cause : GuestError}
    (h : output.envelope function = .error cause) : ∃ message, cause = .fault function message := by
  unfold envelope at h
  split at h
  · cases h
  · split at h
    · cases h
    · split at h
      · cases h
      · cases h
        exact ⟨_, rfl⟩

/-! ## Invocations -/

namespace Service

/-- Calls an export of a module of a service, guest functions being called by `call`. -/
def callModuleWith (call : GuestCall) (m : RegisteredModule) (function arguments : String)
    (parameters : CallParameters) : Guest (Except GuestError RawOutput) := do
  let i := (← Run.store).instances.getD m.place {}
  withParameters parameters (callExport i call function (Text.bytes arguments))

/-- Invokes a function of a module of a service, guest functions being called by `call`. -/
def invokeWith (call : GuestCall) (service : Service) (module function arguments : String)
    (parameters : CallParameters) : Effect Service String :=
  match service.prepare module function arguments with
  | .error cause => .failed cause service
  | .ok (m, ordered) =>
    match callModuleWith call m function ordered parameters service.store with
    | .stop _ s => .broken (service.put s) s.data.records
    | .value called s =>
      match called.bind (RawOutput.envelope function) with
      | .error cause => .failed (.guest cause) (service.put s) s.data.records
      | .ok envelope => .returned envelope.text (service.put s) s.data.records

theorem invoke_eq_invokeWith (regime : Regime) (service : Service)
    (module function arguments : String) (parameters : CallParameters) :
    service.invoke regime module function arguments parameters =
      service.invokeWith (Wasm.invoke hostFunctions regime regime.stack none) module function
        arguments parameters := rfl

theorem callModuleWith_apply (call : GuestCall) (m : RegisteredModule) (function arguments : String)
    (parameters : CallParameters) (s : Store guests) :
    callModuleWith call m function arguments parameters s =
      (callExport (s.instances.getD m.place {}) call function (Text.bytes arguments) >>=
        fun called => setParameters {} >>= fun _ => pure called)
        { s with data := { s.data with parameters := parameters } } := rfl

/-- A store in which the default parameters are in place is left as it was by a call of a function
that is not exported. -/
theorem callModuleWith_of_none {s : Store guests} (hs : s.data.parameters = {})
    {m : RegisteredModule} {function : String}
    (h : exportedFunction? (s.instances.getD m.place {}) function = none) (call : GuestCall)
    (arguments : String) (parameters : CallParameters) :
    callModuleWith call m function arguments parameters s =
      .value (.error (.missingFunction function)) s := by
  rw [callModuleWith_apply, callExport_of_none h]
  change Wasm.Ended.value _ { s with data := { s.data with parameters := {} } } = _
  rw [← hs]

/-- An invocation of a function that is exported fails with a fault of that function. -/
theorem fault_of_invokeWith {service : Service} {call : GuestCall}
    {module function arguments ordered : String} {parameters : CallParameters} {cause : GuestError}
    {m : RegisteredModule} (hp : service.prepare module function arguments = .ok (m, ordered))
    {place : Nat}
    (hexport : exportedFunction? (service.store.instances.getD m.place {}) function = some place)
    (h : (service.invokeWith call module function arguments parameters).result =
      some (.error (.guest cause))) : ∃ message, cause = .fault function message := by
  unfold invokeWith at h
  rw [hp] at h
  dsimp only at h
  cases hcalled : callModuleWith call m function ordered parameters service.store with
  | stop why s =>
    rw [hcalled] at h
    cases h
  | value called s =>
    rw [hcalled] at h
    cases called with
    | error cause' =>
      obtain rfl : cause' = cause := by
        cases h
        rfl
      rw [callModuleWith_apply] at hcalled
      obtain ⟨_, _, hrun, hrest⟩ := Run.bind_eq_value.1 hcalled
      cases hrest
      exact fault_of_callExport hexport hrun
    | ok output =>
      cases henvelope : output.envelope function with
      | error cause' =>
        simp only [Except.bind, henvelope] at h
        cases h
        exact output.fault_of_envelope henvelope
      | ok envelope =>
        simp only [Except.bind, henvelope] at h
        cases h

/-- An invocation that fails early fails so however guest functions are called, and changes
nothing. -/
theorem invokeWith_early {service : Service} (idle : service.Idle) {call : GuestCall}
    {module function arguments : String} {parameters : CallParameters} {cause : GuestError}
    (early : cause.IsEarly)
    (h : (service.invokeWith call module function arguments parameters).result =
      some (.error (.guest cause))) (call' : GuestCall) :
    service.invokeWith call' module function arguments parameters =
      .failed (.guest cause) service := by
  cases hp : service.prepare module function arguments with
  | error cause' =>
    unfold invokeWith at h ⊢
    rw [hp] at h ⊢
    cases h
    rfl
  | ok prepared =>
    obtain ⟨m, ordered⟩ := prepared
    cases hexport : exportedFunction? (service.store.instances.getD m.place {}) function with
    | none =>
      -- the parameters are put in place and taken back, and that is all
      unfold invokeWith at h ⊢
      rw [hp] at h ⊢
      dsimp only at h ⊢
      rw [callModuleWith_of_none idle.parameters hexport] at h ⊢
      cases h
      simp only [Except.bind, idle.put_store, idle.records]
    | some place =>
      obtain ⟨message, rfl⟩ := fault_of_invokeWith hp hexport h
      exact early.elim

end Service

/-! ## Registries -/

namespace Registry

section

variable {R : ControlRuntime} {r : Registry R} {cause : HostError}

/-- A reply of the runtime tells of nothing that is found before guest code runs. -/
theorem not_isEarly_of_readReply {function raw : String}
    (h : readReply function raw = .error cause) : ¬ cause.IsEarly := by
  unfold readReply at h
  split at h
  · next e hdecode =>
    cases h
    unfold Envelope.decode at hdecode
    split at hdecode
    · cases hdecode
      exact id
    · split at hdecode
      · split at hdecode
        · cases hdecode
        · cases hdecode
          exact id
      · cases hdecode
        exact id
  · split at h
    · cases h
    · cases h
      exact id

/-- An early error of an invocation is an early error of the guest. -/
theorem early_of_readAnswer {function : String} {answer : Except RuntimeError String}
    (h : readAnswer function answer = .error cause) (early : cause.IsEarly) :
    ∃ g : GuestError, g.IsEarly ∧ answer = .error (.guest g) := by
  cases answer with
  | ok raw => exact absurd early (not_isEarly_of_readReply h)
  | error e =>
    cases e with
    | guest g =>
      cases h
      exact ⟨g, early, rfl⟩
    | compile | controlImports | registration | unknownHandle | unknownModule =>
      cases h
      exact early.elim

theorem init_refused {control : Bytes} (h : (r.init control).result = some (.error cause)) :
    (r.init control).registry = r := by
  unfold init at h ⊢
  cases hp : r.phase with
  | initialized | terminated => rfl
  | uninitialized =>
    cases hc : R.compile control with
    | error e => rfl
    | ok runtime =>
      simp only [hp, hc] at h
      cases h

theorem terminate_ne_error : r.terminate.result ≠ some (.error cause) := by
  unfold terminate
  split <;> exact fun h => nomatch h

end

variable {regime : Regime} {r : Registry (Engine.controlRuntime regime)} {cause : HostError}

/-- A service that is refused leaves the registry as it was, with the services and the next handle
of its engine. -/
theorem createService_refused {d : ServiceDescriptor} {sink : Sink}
    (h : (r.createService d sink).result = some (.error cause)) :
    (r.createService d sink).registry = r := by
  unfold createService at h ⊢
  cases hready : r.ready with
  | error e => rfl
  | ok e =>
    cases hfacade : d.facadeName? with
    | none => rfl
    | some facade =>
      simp only [hready, hfacade] at h
      dsimp only
      have hruntime : r.runtime = some e := (ready_eq_ok hready).2
      unfold Registry.register at h ⊢
      rcases hresult : ((Engine.controlRuntime regime).register e d sink).result with
        _ | cause' | handle
      · simp [hresult] at h
      · have hstate : ((Engine.controlRuntime regime).register e d sink).state = e :=
          Engine.register_refused fun handle hok => by
            rw [show (Engine.register e d sink).result = _ from hresult] at hok
            cases hok
        simp only [hresult, hstate, ← hruntime]
      · simp [hresult] at h

theorem resolveAndCreate_refused {sink : Sink} {id : String} {modules : ModuleSet}
    {config : Option ServiceConfig} {envs : Option Envs}
    (h : (r.resolveAndCreate sink id modules config envs).result = some (.error cause)) :
    (r.resolveAndCreate sink id modules config envs).registry = r := by
  unfold resolveAndCreate at h ⊢
  cases hgate : r.gate with
  | error e => rfl
  | ok _ =>
    cases hresolve : ServiceDescriptor.resolve id modules config envs with
    | error e => rfl
    | ok d =>
      simp only [hgate, hresolve] at h
      exact createService_refused h

/-- The invocation that a call makes, if it makes one, comes out the same however guest functions
are called. -/
def EntersNoGuest (r : Registry (Engine.controlRuntime regime)) (id function : String)
    (args : CallArgs) (parameters : CallParameters) : Prop :=
  ∀ (e : Engine) (entry : ServiceEntry) (service : Service) (arguments : String),
    r.ready = .ok e → r.services.get? id = some entry →
    e.services.get? entry.handle.number = some service → args.encode = .ok arguments →
    ∀ call : GuestCall, service.invokeWith call entry.facade function arguments parameters =
      service.invoke e.regime entry.facade function arguments parameters

/-- Between operations the services of a registry are idle. -/
def IsIdle (r : Registry (Engine.controlRuntime regime)) : Prop :=
  ∀ (e : Engine) n service, r.runtime = some e → e.services.get? n = some service → service.Idle

theorem isIdle_after {as : List Action}
    (unbroken : (uninitialized : Registry (Engine.controlRuntime regime)).Unbroken as) :
    ((uninitialized : Registry (Engine.controlRuntime regime)).after as).IsIdle := by
  intro e n service he hservice
  have housed := housed_unbroken Service.built_idle
    (fun regime _ service module function arguments parameters h hresult =>
      Service.invoke_idle h regime module function arguments parameters hresult)
    as _ [] housed_uninitialized unbroken
  obtain ⟨_, idle⟩ := (housed.hosts e he).exists_descriptor hservice
  exact idle

/-- An invocation by the engine that fails early changes nothing and emits nothing. -/
theorem engine_invoke_early {e : Engine} {h : Handle} {service : Service} (idle : service.Idle)
    (hs : e.services.get? h.number = some service) {module function arguments : String}
    {parameters : CallParameters} {g : GuestError} (early : g.IsEarly)
    (hresult : (e.invoke h module function arguments parameters).result =
      some (.error (.guest g))) :
    e.invoke h module function arguments parameters = .failed (.guest g) e ∧
      ∀ call : GuestCall, service.invokeWith call module function arguments parameters =
        service.invoke e.regime module function arguments parameters := by
  rw [Engine.invoke_of_get? hs] at hresult ⊢
  have hany := Service.invokeWith_early idle early hresult
  have hinvoke : service.invoke e.regime module function arguments parameters =
      .failed (.guest g) service := hany _
  refine ⟨?_, fun call => (hany call).trans hinvoke.symm⟩
  rw [hinvoke]
  show Effect.failed _ (e.put h service) = _
  rw [Engine.put_self hs]

/-- A call that fails early changes nothing, emits nothing and runs no guest code. -/
theorem callService_refused (idle : r.IsIdle) {id function : String} {args : CallArgs}
    {parameters : CallParameters} (early : cause.IsEarly)
    (h : (r.callService id function args parameters).result = some (.error cause)) :
    (r.callService id function args parameters).registry = r ∧
      (r.callService id function args parameters).activity.records = [] ∧
      r.EntersNoGuest id function args parameters := by
  unfold callService at h ⊢
  cases hready : r.ready with
  | error e => exact ⟨rfl, rfl, fun e _ _ _ he => by rw [hready] at he; cases he⟩
  | ok e =>
    cases hentry : r.services.get? id with
    | none => exact ⟨rfl, rfl, fun _ entry _ _ _ he => by rw [hentry] at he; cases he⟩
    | some entry =>
      cases hargs : args.encode with
      | error e => exact ⟨rfl, rfl, fun _ _ _ _ _ _ _ ha => by rw [hargs] at ha; cases ha⟩
      | ok arguments =>
        simp only [hready, hentry, hargs, Registry.invoke] at h ⊢
        obtain ⟨answer, hanswer, hread⟩ := Option.map_eq_some_iff.1 h
        obtain ⟨g, hg, rfl⟩ := early_of_readAnswer hread early
        have hruntime : r.runtime = some e := (ready_eq_ok hready).2
        change (Engine.invoke e _ _ _ _ _).result = _ at hanswer
        cases hs : Dict.get? (Engine.services e) entry.handle.number with
        | none =>
          simp only [Engine.invoke, hs] at hanswer
          cases hanswer
        | some service =>
          obtain ⟨hinvoke, hany⟩ :=
            engine_invoke_early (idle e _ service hruntime hs) hs hg hanswer
          rw [show (Engine.controlRuntime regime).invoke e entry.handle entry.facade function
            arguments parameters = _ from hinvoke]
          refine ⟨?_, rfl, ?_⟩
          · show ({ r with runtime := some e } : Registry (Engine.controlRuntime regime)) = r
            rw [← hruntime]
          intro e' entry' service' arguments' he hentry' hs' hargs' call
          obtain rfl : e = e' := by
            rw [hready] at he
            cases he
            rfl
          obtain rfl : entry = entry' := Option.some.inj (hentry.symm.trans hentry')
          obtain rfl : service = service' := Option.some.inj (hs.symm.trans hs')
          obtain rfl : arguments = arguments' := by
            rw [hargs] at hargs'
            cases hargs'
            rfl
          exact hany call

/-- In the registry `r` operations that fail leave no trace; `unbroken` tells whether no operation
before has broken the context. -/
structure Traceless (r : Registry (Engine.controlRuntime regime)) (unbroken : Prop) : Prop where
  /-- Nothing comes of a control module or a service that is refused. -/
  setup : ∀ a cause, (r.perform a).result = some (.done (.error cause)) →
    (r.perform a).registry = r
  /-- Nothing comes of an operation that fails. -/
  refused : unbroken → ∀ a reply, (r.perform a).result = some reply → reply.Refuses →
    (r.perform a).registry = r
  /-- A call that fails early is silent and runs no guest code. -/
  call : unbroken → ∀ id function args parameters cause,
    (r.callService id function args parameters).result = some (.error cause) → cause.IsEarly →
      (r.callService id function args parameters).activity.records = [] ∧
        r.EntersNoGuest id function args parameters

section

variable {R : ControlRuntime} {o : Outcome R (Except HostError Unit)}
  {o' : Outcome R (Except HostError Value)}

theorem result_of_done {result : Except HostError Unit}
    (h : (o.map Reply.done).result = some (.done result)) : o.result = some result := by
  obtain ⟨_, hresult, hreply⟩ := Option.map_eq_some_iff.1 h
  cases hreply
  exact hresult

theorem result_of_value {result : Except HostError Value}
    (h : (o'.map Reply.value).result = some (.value result)) : o'.result = some result := by
  obtain ⟨_, hresult, hreply⟩ := Option.map_eq_some_iff.1 h
  cases hreply
  exact hresult

theorem done_ne_value {result : Except HostError Value} :
    (o.map Reply.done).result ≠ some (.value result) := by
  intro h
  obtain ⟨_, -, hreply⟩ := Option.map_eq_some_iff.1 h
  cases hreply

theorem value_ne_done {result : Except HostError Unit} :
    (o'.map Reply.value).result ≠ some (.done result) := by
  intro h
  obtain ⟨_, -, hreply⟩ := Option.map_eq_some_iff.1 h
  cases hreply

end

theorem perform_setup {a : Action} (h : (r.perform a).result = some (.done (.error cause))) :
    (r.perform a).registry = r := by
  cases a with
  | init control => exact init_refused (result_of_done h)
  | operate op =>
    obtain ⟨d, sink⟩ | ⟨id, function, args, parameters⟩ := op
    · exact createService_refused (result_of_done h)
    · exact absurd h value_ne_done
  | terminate => exact absurd (result_of_done h) terminate_ne_error
  | serve sink command =>
    cases command with
    | init control => exact init_refused (result_of_done h)
    | createService id modules config envs => exact resolveAndCreate_refused (result_of_done h)
    | callService id function args parameters => exact absurd h value_ne_done
    | serviceIds | facadeOf => cases h
    | terminate => exact absurd (result_of_done h) terminate_ne_error

theorem call_of_value {a : Action} {result : Except HostError Value}
    (h : (r.perform a).result = some (.value result)) :
    ∃ id function args parameters,
      r.perform a = (r.callService id function args parameters).map .value ∧
        (r.callService id function args parameters).result = some result := by
  cases a with
  | init | terminate => exact absurd h done_ne_value
  | operate op =>
    obtain ⟨d, sink⟩ | ⟨id, function, args, parameters⟩ := op
    · exact absurd h done_ne_value
    · exact ⟨id, function, args, parameters, rfl, result_of_value h⟩
  | serve sink command =>
    cases command with
    | init | createService | terminate => exact absurd h done_ne_value
    | callService id function args parameters =>
      exact ⟨id, function, args, parameters, rfl, result_of_value h⟩
    | serviceIds | facadeOf => cases h

theorem perform_refused (idle : r.IsIdle) {a : Action} {reply : Reply}
    (h : (r.perform a).result = some reply) (refuses : reply.Refuses) :
    (r.perform a).registry = r := by
  cases reply with
  | done result =>
    cases result with
    | ok _ => exact refuses.elim
    | error cause => exact perform_setup h
  | value result =>
    cases result with
    | ok _ => exact refuses.elim
    | error cause =>
      obtain ⟨id, function, args, parameters, hperform, hcall⟩ := call_of_value h
      rw [hperform]
      exact (callService_refused idle refuses hcall).1
  | serviceIds | facade => exact refuses.elim

/-- **Operations that fail leave no trace**, in every state that operations lead to. -/
theorem traceless_after (regime : Regime) (as : List Action) :
    Traceless ((uninitialized : Registry (Engine.controlRuntime regime)).after as)
      ((uninitialized : Registry (Engine.controlRuntime regime)).Unbroken as) where
  setup _ _ h := perform_setup h
  refused unbroken _ _ h refuses := perform_refused (isIdle_after unbroken) h refuses
  call unbroken _ _ _ _ _ h early := (callService_refused (isIdle_after unbroken) early h).2

end Registry

end ModuleHost
