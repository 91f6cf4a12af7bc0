import ModuleHost.Proofs.Engine.Silencing

/-!
# Log settings make no difference

Two runs carry out the same operations, the first with everything logged and the second with any log
settings.

* `ServiceOp.Silences`, `Action.Silences` — the same operation, with any settings and with
  everything logged;
* `Registry.ended?` — the store in which an operation ends; `Registry.operate_records`;
* `Registry.Muted` — the same registry but for loggers;
* `Registry.Muted.createService`, `Registry.Muted.callService`, **`Registry.Muted.perform`**: every
  operation does the same, and leaves registries that are the same;
* **`Registry.indifferent`**: so do runs, if the first can read what it logs.
-/

namespace ModuleHost

open Wasm (Store Regime)

/-! ## Operations -/

/-- The operation on a service that an operation of a registry comes down to, if any. -/
def Action.op? : Action → Option ServiceOp
  | .operate op => some op
  | .serve sink (.createService id modules config envs) =>
    (ServiceDescriptor.resolve id modules config envs).toOption.map (.create · sink)
  | .serve _ (.callService id function args parameters) => some (.call id function args parameters)
  | _ => none

/-- The same operation on a service, with any settings and with everything logged. -/
inductive ServiceOp.Silences : ServiceOp → ServiceOp → Prop where
  | create {d d' : ServiceDescriptor} (sink : Sink) (silences : d'.Silences d) :
      Silences (.create d' sink) (.create d sink)
  | call (id function : String) (args : CallArgs) (parameters : CallParameters) :
      Silences (.call id function args parameters) (.call id function args parameters)

/-- The same operation, with any settings and with everything logged. -/
inductive Action.Silences : Action → Action → Prop where
  | service {a a' : Action} {op op' : ServiceOp} (silences : op'.Silences op)
      (ha : a.op? = some op) (ha' : a'.op? = some op') : Silences a' a
  /-- The operation neither creates nor calls a service. -/
  | other {a : Action} (ha : a.op? = none) : Silences a a

/-- The descriptor of the service that an operation is on; `t` is the journal before it. -/
def ServiceOp.descriptor? (t : List Traffic) : ServiceOp → Option ServiceDescriptor
  | .create d _ => some d
  | .call id _ _ _ => (latest t id).map (·.2)

/-- The settings of the service that an operation is on let a level pass. -/
def Action.admits (t : List Traffic) (a : Action) (position : Nat) (level : LogLevel) : Bool :=
  (a.op?.bind (·.descriptor? t)).any (·.forwards position level)

namespace Registry

variable {regime : Regime} {r r' : Registry (Engine.controlRuntime regime)} {t t' : List Traffic}

theorem perform_of_op {R : ControlRuntime} (r : Registry R) {a : Action} {op : ServiceOp}
    (h : a.op? = some op) : r.perform a = r.operate op := by
  cases a with
  | init | terminate => cases h
  | operate =>
    cases h
    rfl
  | serve sink command =>
    cases command with
    | init | serviceIds | facadeOf | terminate => cases h
    | callService =>
      cases h
      rfl
    | createService id modules config envs =>
      obtain ⟨d, hd, rfl⟩ := Option.map_eq_some_iff.1 h
      show (r.resolveAndCreate sink id modules config envs).map Reply.done = _
      unfold resolveAndCreate
      cases hg : r.gate with
      | error e =>
        show _ = (r.createService d sink).map Reply.done
        rw [createService, ready, hg]
      | ok =>
        cases hr : ServiceDescriptor.resolve id modules config envs with
        | error e =>
          rw [hr] at hd
          cases hd
        | ok d' =>
          rw [hr] at hd
          cases hd
          rfl

/-! ## Stores -/

/-- The store in which an operation on a service ends, if it reaches one. -/
def ended? (r : Registry (Engine.controlRuntime regime)) : ServiceOp → Option (Store guests)
  | .create d sink => r.registering? d sink
  | .call id function args parameters => r.final? id function args parameters

/-- **The records of an operation are those of the store in which it ends.** -/
theorem operate_records (hh : Housed Service.Stands r t) (op : ServiceOp) :
    (r.operate op).activity.records = ((r.ended? op).map (·.data.records)).getD [] := by
  cases op with
  | create d sink => exact r.createService_records d sink
  | call id function args parameters =>
    refine callService_records (fun e n service he hservice => ?_) id function args parameters
    obtain ⟨_, stands⟩ := (hh.hosts e he).exists_descriptor hservice
    exact stands.settled

theorem loggers_ended (hh : Housed Service.Stands r t) {op : ServiceOp} {s : Store guests}
    (hs : r.ended? op = some s) :
    ∃ d, op.descriptor? t = some d ∧ s.data.loggers <+: d.modules.map (·.logger d.serviceId) := by
  cases op with
  | create d sink =>
    refine ⟨d, rfl, ?_⟩
    change r.registering? d sink = some s at hs
    unfold registering? at hs
    split at hs
    · cases hs
      exact loggers_registerModules _ _ d sink
    · cases hs
  | call id function args parameters =>
    change r.final? id function args parameters = some s at hs
    rcases r.final?_cases id function args parameters with hnone |
      ⟨e, entry, service, arguments, he, hentry, hservice, hfinal⟩
    · rw [hnone] at hs
      cases hs
    · rw [hfinal] at hs
      cases hs
      obtain ⟨d, hl, stands⟩ := (hh.hosts e he).tracked id entry service hentry hservice
      refine ⟨d, by rw [ServiceOp.descriptor?, hl, Option.map_some], ?_⟩
      have hloggers := (stands.sound.evolves_final e.regime entry.facade function arguments
        parameters).loggers.trans stands.laid.loggers
      exact hloggers ▸ List.prefix_refl _

/-! ## Registries -/

/-- The registry `r'` is `r` but for the settings of loggers. -/
structure Muted (r r' : Registry (Engine.controlRuntime regime)) : Prop where
  phase : r'.phase = r.phase
  services : r'.services = r.services
  runtime : Option.Rel Engine.Muted r.runtime r'.runtime

/-- The operation `op'` does to `r'` what `op` does to `r`, but for log records. -/
structure Echoes (r r' : Registry (Engine.controlRuntime regime)) (op op' : ServiceOp) : Prop where
  result : (r'.operate op').result = (r.operate op).result
  left : (r.operate op).registry.Muted (r'.operate op').registry
  ended : Option.Rel Store.Muted (r.ended? op) (r'.ended? op')

namespace Echoes

variable {op op' : ServiceOp}

/-- Where everything is logged, everything that is said is recorded. -/
theorem full (h : r.Echoes r' op op') (hh : Housed Service.Stands r t) :
    (r.operate op).activity.records = (((r.ended? op).map spoken).getD []).map (·.2) := by
  rw [operate_records hh]
  have ended := h.ended
  generalize r.ended? op = s at *
  generalize r'.ended? op' = s' at *
  cases ended with
  | none => rfl
  | some muted => exact muted.full

/-- Otherwise what the settings let pass. -/
theorem fewer (h : r.Echoes r' op op') (hh' : Housed Service.Stands r' t') :
    (r'.operate op').activity.records =
      passed (fun position level => (op'.descriptor? t').any (·.forwards position level))
        (((r.ended? op).map spoken).getD []) := by
  rw [operate_records hh']
  have ended := h.ended
  have logs := fun s => @loggers_ended regime r' t' hh' op' s
  generalize r.ended? op = s at *
  generalize r'.ended? op' = s' at *
  cases ended with
  | none => rfl
  | some muted =>
    obtain ⟨d', hd', loggers⟩ := logs _ rfl
    rw [hd']
    exact muted.passed loggers

end Echoes

namespace Muted

theorem ready (h : r.Muted r') :
    (∃ cause, r.ready = .error cause ∧ r'.ready = .error cause) ∨
      ∃ e e' : Engine, r.ready = .ok e ∧ r'.ready = .ok e' ∧ e.Muted e' := by
  have hgate : r'.gate = r.gate := by rw [gate, h.phase, gate]
  obtain ⟨phase, runtime, services⟩ := r
  obtain ⟨phase', runtime', services'⟩ := r'
  have hrel : Option.Rel Engine.Muted runtime runtime' := h.runtime
  unfold Registry.ready
  rw [hgate]
  cases (⟨phase, runtime, services⟩ : Registry (Engine.controlRuntime regime)).gate with
  | error cause => exact .inl ⟨cause, rfl, rfl⟩
  | ok =>
    cases hrel with
    | none => exact .inl ⟨_, rfl, rfl⟩
    | some muted => exact .inr ⟨_, _, rfl, rfl, muted⟩

theorem enter (h : r.Muted r') {e e' : Engine} (he : e.Muted e') {d d' : ServiceDescriptor}
    (hid : d'.serviceId = d.serviceId) (entry : ServiceEntry) :
    (r.enter e d entry).1.Muted (r'.enter e' d' entry).1 := by
  unfold Registry.enter
  rw [hid, h.services]
  cases r.services.get? d.serviceId with
  | none => exact ⟨h.phase, rfl, .some he⟩
  | some old => exact ⟨h.phase, rfl, .some (he.release old.handle)⟩

theorem register (h : r.Muted r') {e e' : Engine} (he : e.Muted e') {d d' : ServiceDescriptor}
    (silences : d'.Silences d) (facade : String) (sink : Sink)
    (legible : Legible (Service.registering e.regime e.control d sink).data) :
    (r'.register e' d' facade sink).result = (r.register e d facade sink).result ∧
      (r.register e d facade sink).registry.Muted (r'.register e' d' facade sink).registry := by
  obtain ⟨same, left⟩ := he.register silences sink legible
  unfold Registry.register
  dsimp only [Engine.controlRuntime] at *
  rw [same]
  rcases (Engine.register e d sink).result with _ | cause | handle
  · exact ⟨rfl, h.phase, h.services, .some left⟩
  · exact ⟨by rw [silences.serviceId], h.phase, h.services, .some left⟩
  · exact ⟨rfl, h.enter left silences.serviceId ⟨handle, facade⟩⟩

/-- A creation does the same where less is logged. -/
theorem createService (h : r.Muted r') {d d' : ServiceDescriptor} (silences : d'.Silences d)
    (sink : Sink) (legible : ∀ s, r.registering? d sink = some s → Legible s.data) :
    r.Echoes r' (.create d sink) (.create d' sink) := by
  suffices hsuff : (r'.createService d' sink).result = (r.createService d sink).result ∧
      (r.createService d sink).registry.Muted (r'.createService d' sink).registry ∧
      Option.Rel Store.Muted (r.registering? d sink) (r'.registering? d' sink) from
    ⟨congrArg (Option.map Reply.done) hsuff.1, hsuff.2.1, hsuff.2.2⟩
  unfold registering? at *
  unfold Registry.createService
  rcases h.ready with ⟨cause, hr, hr'⟩ | ⟨e, e', hr, hr', he⟩
  · rw [hr, hr']
    exact ⟨rfl, h, .none⟩
  · rw [hr] at legible
    rw [hr, hr', silences.facadeName?]
    cases hf : d.facadeName? with
    | none => exact ⟨by rw [silences.serviceId]; rfl, h, .none⟩
    | some facade =>
      rw [hf] at legible
      have legible := legible _ rfl
      obtain ⟨same, left⟩ := h.register he silences facade sink legible
      refine ⟨same, left, .some ?_⟩
      rw [he.regime, he.control]
      exact (Service.build_silenced silences _ _ sink legible).1

/-- A call does the same where less is logged. -/
theorem callService (h : r.Muted r') (id function : String) (args : CallArgs)
    (parameters : CallParameters)
    (legible : ∀ s, r.final? id function args parameters = some s → Legible s.data) :
    r.Echoes r' (.call id function args parameters) (.call id function args parameters) := by
  suffices hsuff : (r'.callService id function args parameters).result =
        (r.callService id function args parameters).result ∧
      (r.callService id function args parameters).registry.Muted
        (r'.callService id function args parameters).registry ∧
      Option.Rel Store.Muted (r.final? id function args parameters)
        (r'.final? id function args parameters) from
    ⟨congrArg (Option.map Reply.value) hsuff.1, hsuff.2.1, hsuff.2.2⟩
  unfold final? at *
  unfold Registry.callService
  rcases h.ready with ⟨cause, hr, hr'⟩ | ⟨e, e', hr, hr', he⟩
  · rw [hr, hr']
    exact ⟨rfl, h, .none⟩
  · rw [hr] at legible
    rw [hr, hr', h.services]
    cases hentry : r.services.get? id with
    | none => exact ⟨rfl, h, .none⟩
    | some entry =>
      cases ha : args.encode with
      | error cause => exact ⟨rfl, h, .none⟩
      | ok arguments =>
        rw [hentry, ha] at legible
        dsimp only at legible ⊢
        obtain ⟨same, left⟩ := he.invoke entry.handle entry.facade function arguments parameters
          fun service hs => legible _ (by rw [hs, Option.map_some])
        refine ⟨congrArg (Option.map (readAnswer function)) same,
          ⟨h.phase, h.services, .some left⟩, ?_⟩
        cases hs : e.services.get? entry.handle.number with
        | none =>
          rw [he.get?_none hs]
          exact .none
        | some service =>
          obtain ⟨service', hs', muted⟩ := he.get?_some hs
          rw [hs', he.regime]
          refine .some (muted.invoke _ _ _ _ _ (legible _ ?_)).2
          rw [hs, Option.map_some]

theorem init (h : r.Muted r') (control : Bytes) :
    (r'.init control).result = (r.init control).result ∧
      (r.init control).registry.Muted (r'.init control).registry ∧
      (r.init control).activity.records = [] ∧ (r'.init control).activity.records = [] := by
  unfold Registry.init
  rw [h.phase]
  cases r.phase with
  | initialized => exact ⟨rfl, h, rfl, rfl⟩
  | terminated => exact ⟨rfl, h, rfl, rfl⟩
  | uninitialized =>
    cases hc : (Engine.controlRuntime regime).compile control with
    | error cause => exact ⟨rfl, h, rfl, rfl⟩
    | ok e =>
      refine ⟨rfl, ⟨rfl, h.services, .some (.of_empty ?_)⟩, rfl, rfl⟩
      obtain ⟨m, rfl⟩ := Engine.compile_eq_ok hc
      rfl

theorem terminate (h : r.Muted r') :
    r'.terminate.result = r.terminate.result ∧ r.terminate.registry.Muted r'.terminate.registry ∧
      r.terminate.activity.records = [] ∧ r'.terminate.activity.records = [] := by
  unfold Registry.terminate
  rw [h.phase]
  split
  · exact ⟨rfl, h, rfl, rfl⟩
  · exact ⟨rfl, ⟨rfl, rfl, .none⟩, rfl, rfl⟩

/-- What neither creates nor calls a service does the same, and logs nothing. -/
theorem other (h : r.Muted r') {a : Action} (ha : a.op? = none) :
    (r'.perform a).result = (r.perform a).result ∧
      (r.perform a).registry.Muted (r'.perform a).registry ∧
      (r.perform a).activity.records = [] ∧ (r'.perform a).activity.records = [] := by
  cases a with
  | operate => cases ha
  | init control =>
    obtain ⟨same, rest⟩ := h.init control
    exact ⟨congrArg (Option.map Reply.done) same, rest⟩
  | terminate =>
    obtain ⟨same, rest⟩ := h.terminate
    exact ⟨congrArg (Option.map Reply.done) same, rest⟩
  | serve sink command =>
    cases command with
    | init control =>
      obtain ⟨same, rest⟩ := h.init control.bytes
      exact ⟨congrArg (Option.map Reply.done) same, rest⟩
    | terminate =>
      obtain ⟨same, rest⟩ := h.terminate
      exact ⟨congrArg (Option.map Reply.done) same, rest⟩
    | callService => cases ha
    | serviceIds =>
      refine ⟨?_, h, rfl, rfl⟩
      show some (Reply.serviceIds r'.serviceIds) = some (Reply.serviceIds r.serviceIds)
      rw [serviceIds, h.services, serviceIds]
    | facadeOf id =>
      refine ⟨?_, h, rfl, rfl⟩
      show some (Reply.facade (r'.facadeOf id)) = some (Reply.facade (r.facadeOf id))
      rw [facadeOf, h.services, facadeOf]
    | createService id modules config envs =>
      -- nothing comes of the configuration
      have hresolve : ∃ cause, ServiceDescriptor.resolve id modules config envs = .error cause := by
        cases hd : ServiceDescriptor.resolve id modules config envs with
        | error cause => exact ⟨cause, rfl⟩
        | ok d =>
          rw [Action.op?, hd] at ha
          cases ha
      obtain ⟨cause, hcause⟩ := hresolve
      have hgate : r'.gate = r.gate := by rw [gate, h.phase, gate]
      have hperform (r : Registry (Engine.controlRuntime regime)) :
          r.perform (.serve sink (.createService id modules config envs)) =
            (r.resolveAndCreate sink id modules config envs).map .done := rfl
      rw [hperform, hperform]
      unfold resolveAndCreate
      rw [hgate, hcause]
      cases r.gate <;> exact ⟨rfl, h, rfl, rfl⟩

end Muted

/-! ## Runs -/

/-- The store in which an operation ends, if it reaches a service. -/
def endedBy? (r : Registry (Engine.controlRuntime regime)) (a : Action) : Option (Store guests) :=
  a.op?.bind r.ended?

/-- What the log calls of an operation say, with the positions of the modules that log. -/
def spokenBy (r : Registry (Engine.controlRuntime regime)) (a : Action) : List (Nat × LogRecord) :=
  ((r.endedBy? a).map spoken).getD []

/-- The operation `a'` does in the registry `r'` with the journal `t'` what `a` does in `r`, but
logs only what its settings let pass. -/
structure Matches (r r' : Registry (Engine.controlRuntime regime)) (t' : List Traffic)
    (a a' : Action) : Prop where
  result : (r'.perform a').result = (r.perform a).result
  /-- Where everything is logged, the records are what guests say. -/
  full : (r.perform a).activity.records = (r.spokenBy a).map (·.2)
  /-- Otherwise those of them that the settings of the module that logs let pass, in order. -/
  fewer : (r'.perform a').activity.records = passed (a'.admits t') (r.spokenBy a)

/-- The runs `as'` and `as` from `r` do the same, but `as'` logs only what its settings let pass. -/
structure Indifferent (r : Registry (Engine.controlRuntime regime)) (as as' : List Action) :
    Prop where
  operations : ∀ (k : Nat) a a', as[k]? = some a → as'[k]? = some a' →
    (r.after (as.take k)).Matches (r.after (as'.take k)) (r.journal (as'.take k)) a a'
  left : (r.after as).Muted (r.after as')
  /-- Guests are left with the same memories and globals. -/
  guests : ∀ e e' : Engine, (r.after as).runtime = some e → (r.after as').runtime = some e' → ∀ n,
    Option.Rel (fun service service' => service'.store.memories = service.store.memories ∧
      service'.store.globals = service.store.globals) (e.services.get? n) (e'.services.get? n)

/-- **Every operation does the same where less is logged.** -/
theorem Muted.perform (h : r.Muted r') (hh : Housed Service.Stands r t)
    (hh' : Housed Service.Stands r' t') {a a' : Action} (silences : a'.Silences a)
    (legible : ∀ s, r.endedBy? a = some s → Legible s.data) :
    r.Matches r' t' a a' ∧ (r.perform a).registry.Muted (r'.perform a').registry := by
  cases silences with
  | other ha =>
    obtain ⟨same, left, records, records'⟩ := h.other ha
    refine ⟨⟨same, ?_, ?_⟩, left⟩
    · rw [records, spokenBy, endedBy?, ha]
      rfl
    · rw [records', spokenBy, endedBy?, ha]
      rfl
  | @service _ _ op op' silences ha ha' =>
    rw [endedBy?, ha, Option.bind_some] at legible
    have echoes : r.Echoes r' op op' := by
      cases silences with
      | create sink silences => exact h.createService silences sink legible
      | call id function args parameters => exact h.callService id function args parameters legible
    refine ⟨⟨?_, ?_, ?_⟩, ?_⟩
    · rw [perform_of_op r ha, perform_of_op r' ha', echoes.result]
    · rw [perform_of_op r ha, echoes.full hh, spokenBy, endedBy?, ha, Option.bind_some]
    · rw [perform_of_op r' ha', echoes.fewer hh', spokenBy, endedBy?, ha, Option.bind_some]
      unfold Action.admits
      rw [ha', Option.bind_some]
    · rw [perform_of_op r ha, perform_of_op r' ha']
      exact echoes.left

/-- Every log call of a run can be read, and the sinks take what the log calls say. -/
def Legible (r : Registry (Engine.controlRuntime regime)) : List Action → Prop
  | [] => True
  | a :: as => (∀ s ∈ r.endedBy? a, ModuleHost.Legible s.data) ∧ (r.perform a).registry.Legible as

instance decidableLegible : (r : Registry (Engine.controlRuntime regime)) → (as : List Action) →
    Decidable (r.Legible as)
  | _, [] => isTrue trivial
  | r, a :: as =>
    have := decidableLegible (r.perform a).registry as
    inferInstanceAs (Decidable (_ ∧ _))

/-- What every operation does, runs do. -/
theorem Muted.run {as as' : List Action} (silences : List.Forall₂ Action.Silences as' as)
    (h : r.Muted r') (hh : Housed Service.Stands r t) (hh' : Housed Service.Stands r' t')
    (legible : r.Legible as) :
    (r.after as).Muted (r'.after as') ∧
      ∀ (k : Nat) a a', as[k]? = some a → as'[k]? = some a' →
        (r.after (as.take k)).Matches (r'.after (as'.take k)) (t' ++ r'.journal (as'.take k))
          a a' := by
  induction silences generalizing r r' t t' with
  | nil => exact ⟨h, fun k a a' ha => nomatch ha⟩
  | @cons a' a as' as head _ ih =>
    obtain ⟨matched, left⟩ := h.perform hh hh' head legible.1
    obtain ⟨ends, rest⟩ := ih left ((step_perform r a).housed_of_lasting hh Service.lasting_stands)
      ((step_perform r' a').housed_of_lasting hh' Service.lasting_stands) legible.2
    refine ⟨ends, fun k b b' hb hb' => ?_⟩
    cases k with
    | zero =>
      cases hb
      cases hb'
      rw [List.take_zero, List.take_zero, journal, List.append_nil]
      exact matched
    | succ k =>
      have := rest k b b' hb hb'
      rwa [List.append_assoc] at this

theorem muted_uninitialized :
    (uninitialized : Registry (Engine.controlRuntime regime)).Muted uninitialized :=
  ⟨rfl, rfl, .none⟩

/-- **Log settings make no difference but to what is logged.** -/
theorem indifferent (regime : Regime) {as as' : List Action}
    (silences : List.Forall₂ Action.Silences as' as)
    (legible : (uninitialized : Registry (Engine.controlRuntime regime)).Legible as) :
    (uninitialized : Registry (Engine.controlRuntime regime)).Indifferent as as' := by
  have housed : Housed Service.Stands
    (uninitialized : Registry (Engine.controlRuntime regime)) [] := housed_uninitialized
  obtain ⟨left, operations⟩ := muted_uninitialized.run silences housed housed legible
  refine ⟨operations, left, fun e e' he he' n => ?_⟩
  have hrel := left.runtime
  rw [he, he'] at hrel
  have hservices := (Option.rel_some_some.1 hrel).services n
  generalize e.services.get? n = service at *
  generalize e'.services.get? n = service' at *
  cases hservices with
  | none => exact .none
  | some muted =>
    obtain ⟨id, d, hstore, -⟩ := muted.store
    exact .some (by rw [hstore]; exact ⟨rfl, rfl⟩)

/-! ## A service that logs -/

/-- A module whose function `e` logs a word. -/
def chatty : Bytes :=
  [0, 97, 115, 109, 1, 0, 0, 0, 1, 27, 4, 96, 1, 127, 1, 127, 96, 2, 127, 127, 0, 96, 4, 127, 127,
    127, 127, 1, 127, 96, 5, 127, 127, 127, 127, 127, 0, 2, 24, 1, 4, 104, 111, 115, 116, 15, 108,
    111, 103, 95, 117, 116, 102, 56, 95, 115, 116, 114, 105, 110, 103, 0, 3, 3, 4, 3, 0, 1, 2, 5, 3,
    1, 0, 1, 6, 6, 1, 127, 1, 65, 16, 11, 7, 38, 4, 6, 109, 101, 109, 111, 114, 121, 2, 0, 8, 97,
    108, 108, 111, 99, 97, 116, 101, 0, 1, 10, 100, 101, 97, 108, 108, 111, 99, 97, 116, 101, 0, 2,
    1, 101, 0, 3, 10, 33, 3, 11, 0, 35, 0, 35, 0, 32, 0, 106, 36, 0, 11, 2, 0, 11, 16, 0, 65, 3, 65,
    0, 65, 0, 65, 0, 65, 2, 16, 0, 65, 0, 11, 11, 8, 1, 0, 65, 0, 11, 2, 104, 105, 0, 44, 15, 105,
    110, 116, 101, 114, 102, 97, 99, 101, 45, 116, 121, 112, 101, 115, 123, 34, 102, 117, 110, 99,
    116, 105, 111, 110, 115, 34, 58, 91, 123, 34, 110, 97, 109, 101, 34, 58, 34, 101, 34, 125, 93,
    125]

/-- The service `s` of that module. -/
def chattyService (config : ModuleConfig) : ServiceDescriptor :=
  ⟨"s", [⟨"m", .owned chatty, config⟩], none⟩

/-- A call of it. -/
def chattyCall : Action := .operate (.call "s" "e" (.positional []) {})

/-- The service is created and called. -/
def chattyRun (config : ModuleConfig) : List Action :=
  [.init [0, 97, 115, 109, 1, 0, 0, 0], .operate (.create (chattyService config) .total),
    chattyCall]

/-- Everything is logged. -/
def loud : ModuleConfig := { wasi := { envs := Dict.empty.insert logVariable "trace" } }

/-- Nothing is logged. -/
def quiet : ModuleConfig := { loggerEnabled := false }

theorem indifferent_chatty :
    let start : Registry (Engine.controlRuntime {}) := uninitialized
    List.Forall₂ Action.Silences (chattyRun quiet) (chattyRun loud) ∧
      start.Legible (chattyRun loud) ∧ start.Indifferent (chattyRun loud) (chattyRun quiet) ∧
      (start.after ((chattyRun loud).take 2)).spokenBy chattyCall = [(0, ⟨"s", "hi", .info⟩)] ∧
      ((start.after ((chattyRun quiet).take 2)).perform chattyCall).activity.records = [] := by
  have modules : ModuleDescriptor.Silences ⟨"m", .owned chatty, quiet⟩ ⟨"m", .owned chatty, loud⟩ :=
    ⟨rfl, rfl, rfl, rfl, rfl⟩
  have service : (chattyService quiet).Silences (chattyService loud) := ⟨rfl, .cons modules .nil⟩
  have silences : List.Forall₂ Action.Silences (chattyRun quiet) (chattyRun loud) := by
    refine .cons (.other rfl) (.cons (.service (.create .total service) rfl rfl) (.cons ?_ .nil))
    exact .service (.call "s" "e" (.positional []) {}) rfl rfl
  have legible :
      (uninitialized : Registry (Engine.controlRuntime {})).Legible (chattyRun loud) := by
    decide +kernel
  refine ⟨silences, legible, indifferent {} silences legible, ?_, ?_⟩
  · decide +kernel
  · decide +kernel

end Registry

end ModuleHost
