import ModuleHost.Proofs.Engine.Hosting
import ModuleHost.Proofs.Engine.Invariant

/-!
# What passes between host and guests

The store in which a call ends tells which exchanges the call made and which records it emitted.

* `Service.final`, `Registry.final?` — the store in which an invocation, a call ends;
* `Registry.exchanges` — what passed between host and guests during a call;
* `Service.Settled` — nothing is left of the operations before; `Service.lasting_settled`;
* `Service.invoke_of_settled`, `Service.store_of_build` — what an invocation and a registration
  leave;
* **`Registry.callService_records`**, **`Registry.callService_leaves`**: the records of a call are
  those of the store in which it ended, and the service has that store from then on;
* `Registry.registering?`, **`Registry.createService_records`** — the same of a registration.
-/

namespace ModuleHost

open Wasm (Store Regime Module)

/-- The store in which an invocation ends. -/
def Service.final (regime : Regime) (service : Service) (module function arguments : String)
    (parameters : CallParameters) : Store guests :=
  match service.prepare module function arguments with
  | .error _ => service.store
  | .ok (m, ordered) => (callModule regime m function ordered parameters service.store).store

theorem Service.final_of_keeps {P : Store guests → Prop} {Q : GuestStop → Prop} {service : Service}
    (hs : P service.store) (regime : Regime) (module function arguments : String)
    (parameters : CallParameters)
    (keeps : ∀ m ordered, Wasm.Run.Keeps P Q (callModule regime m function ordered parameters)) :
    P (service.final regime module function arguments parameters) := by
  unfold final
  split
  · exact hs
  · next m ordered _ => exact (keeps m ordered service.store hs).store

/-- The store in which the registration of a service ends. -/
def Service.registering (regime : Regime) (control : Module) (d : ServiceDescriptor)
    (sink : Sink) : Store guests :=
  ((registerModules regime control d).run (freshStore d sink)).store

/-- Nothing is left of the operations before. -/
structure Service.Settled (service : Service) : Prop where
  records : service.store.data.records = []
  exchanges : service.store.data.exchanges = []

namespace Service

theorem settled_put (service : Service) (s : Store guests) : (service.put s).Settled := ⟨rfl, rfl⟩

theorem Settled.put_store {service : Service} (h : service.Settled) :
    service.put service.store = service := by
  obtain ⟨s, modules⟩ := service
  obtain ⟨functions, tables, memories, globals, instances, data⟩ := s
  obtain ⟨serviceId, sink, loggers, directory, parameters, records, exchanges⟩ := data
  cases h.records
  cases h.exchanges
  rfl

/-- An invocation leaves the store in which it ended, settled, and emits its records. -/
theorem invoke_of_settled {service : Service} (h : service.Settled) (regime : Regime)
    (module function arguments : String) (parameters : CallParameters) :
    let final := service.final regime module function arguments parameters
    (service.invoke regime module function arguments parameters).state = service.put final ∧
      (service.invoke regime module function arguments parameters).records =
        final.data.records := by
  unfold invoke final
  cases service.prepare module function arguments with
  | error cause => exact ⟨h.put_store.symm, h.records.symm⟩
  | ok prepared =>
    obtain ⟨m, ordered⟩ := prepared
    cases hc : callModule regime m function ordered parameters service.store with
    | stop why s =>
      simp only [hc]
      exact ⟨rfl, rfl⟩
    | value called s =>
      simp only [hc]
      split <;> exact ⟨rfl, rfl⟩

theorem build_records (regime : Regime) (control : Module) (d : ServiceDescriptor) (sink : Sink) :
    (build regime control d sink).records = (registering regime control d sink).data.records := by
  unfold build registering
  split <;> next h => rw [h]; rfl

/-- A service that is registered has the store in which its registration ended, settled. -/
theorem store_of_build {control : Module} {d : ServiceDescriptor} {sink : Sink} {service : Service}
    {regime : Regime} (h : (build regime control d sink).result = some (.ok service)) :
    service.store = settled (registering regime control d sink) := by
  unfold build at h
  unfold registering
  split at h
  · next modules s hrun =>
    cases h
    rw [hrun]
    rfl
  · cases h
  · cases h

theorem lasting_settled : Lasting fun _ service => service.Settled where
  built regime control d sink service _ h := by
    unfold build at h
    split at h
    · cases h
      exact ⟨rfl, rfl⟩
    · cases h
    · cases h
  invoked regime d service module function arguments parameters h := by
    rw [(invoke_of_settled h regime module function arguments parameters).1]
    exact settled_put service _

end Service

theorem Engine.register_records (e : Engine) (d : ServiceDescriptor) (sink : Sink) :
    (e.register d sink).records =
      (Service.registering e.regime e.control d sink).data.records := by
  rw [← Service.build_records]
  unfold register
  rcases hb : (Service.build e.regime e.control d sink).result with _ | cause | service
  all_goals simp only [hb]; rfl

namespace Registry

variable {regime : Regime}

/-- The store in which a call ends, if it reaches a service. -/
def final? (r : Registry (Engine.controlRuntime regime)) (id function : String) (args : CallArgs)
    (parameters : CallParameters) : Option (Store guests) :=
  match (r.ready : Except HostError Engine), r.services.get? id, args.encode with
  | .ok e, some entry, .ok arguments =>
    (e.services.get? entry.handle.number).map fun service =>
      service.final e.regime entry.facade function arguments parameters
  | _, _, _ => none

/-- What passes between host and guests during a call, in order. -/
def exchanges (r : Registry (Engine.controlRuntime regime)) (id function : String)
    (args : CallArgs) (parameters : CallParameters) : List Exchange :=
  ((r.final? id function args parameters).map (·.data.exchanges)).getD []

/-- A call that reaches a service ends in a store of that service. -/
theorem final?_cases (r : Registry (Engine.controlRuntime regime)) (id function : String)
    (args : CallArgs) (parameters : CallParameters) :
    r.final? id function args parameters = none ∨ ∃ (e : Engine) (entry : ServiceEntry)
      (service : Service) (arguments : String), r.runtime = some e ∧
        r.services.get? id = some entry ∧ e.services.get? entry.handle.number = some service ∧
        r.final? id function args parameters =
          some (service.final e.regime entry.facade function arguments parameters) := by
  unfold final?
  cases hready : r.ready with
  | error cause => exact .inl rfl
  | ok e =>
    cases hentry : r.services.get? id with
    | none => exact .inl rfl
    | some entry =>
      cases args.encode with
      | error cause => exact .inl rfl
      | ok arguments =>
        cases hs : Dict.get? (Engine.services e) entry.handle.number with
        | none => exact .inl (by simp only [hs]; rfl)
        | some service =>
          refine .inr ⟨e, entry, service, arguments, (ready_eq_ok hready).2, rfl, hs, ?_⟩
          simp only [hs]
          rfl

/-- **The records of a call are those of the store in which it ended.** -/
theorem callService_records {r : Registry (Engine.controlRuntime regime)}
    (settled : ∀ (e : Engine) n service, r.runtime = some e → e.services.get? n = some service →
      service.Settled) (id function : String) (args : CallArgs) (parameters : CallParameters) :
    (r.callService id function args parameters).activity.records =
      ((r.final? id function args parameters).map (·.data.records)).getD [] := by
  unfold callService final?
  cases hready : r.ready with
  | error cause => rfl
  | ok e =>
    cases hentry : r.services.get? id with
    | none => rfl
    | some entry =>
      cases args.encode with
      | error cause => rfl
      | ok arguments =>
        change (Engine.invoke e entry.handle entry.facade function arguments parameters).records = _
        cases hs : Dict.get? (Engine.services e) entry.handle.number with
        | none =>
          simp only [Engine.invoke, hs]
          rfl
        | some service =>
          have h := settled e _ service (ready_eq_ok hready).2 hs
          rw [Engine.invoke_of_get? hs]
          simp only [hs]
          exact (Service.invoke_of_settled h _ _ _ _ _).2

/-- A call that reaches a service leaves it the store in which it ended, settled. -/
theorem callService_leaves {r : Registry (Engine.controlRuntime regime)}
    (settled : ∀ (e : Engine) n service, r.runtime = some e → e.services.get? n = some service →
      service.Settled) {id function : String} {args : CallArgs} {parameters : CallParameters}
    {s : Store guests} (h : r.final? id function args parameters = some s) :
    ∃ (e e' : Engine) (entry : ServiceEntry) (service : Service), r.runtime = some e ∧
      r.services.get? id = some entry ∧ e.services.get? entry.handle.number = some service ∧
      (r.callService id function args parameters).registry.runtime = some e' ∧
      e'.services.get? entry.handle.number = some (service.put s) := by
  unfold final? at h
  unfold callService
  cases hready : r.ready with
  | error cause =>
    rw [hready] at h
    cases h
  | ok e =>
    cases hentry : r.services.get? id with
    | none =>
      rw [hready, hentry] at h
      cases h
    | some entry =>
      cases hargs : args.encode with
      | error cause =>
        rw [hready, hentry, hargs] at h
        cases h
      | ok arguments =>
        rw [hready, hentry, hargs] at h
        obtain ⟨service, hs, rfl⟩ := Option.map_eq_some_iff.1 h
        have settled := settled e _ service (ready_eq_ok hready).2 hs
        refine ⟨e, _, entry, service, (ready_eq_ok hready).2, rfl, hs, rfl, ?_⟩
        change ((Engine.invoke e entry.handle entry.facade function arguments
          parameters).state.services.get? entry.handle.number) = _
        rw [Engine.invoke_of_get? hs]
        change ((e.put entry.handle (service.invoke e.regime entry.facade function arguments
          parameters).state).services.get? entry.handle.number) = _
        rw [(Service.invoke_of_settled settled _ _ _ _ _).1]
        exact (Dict.get?_insert _ _ _ _).trans (if_pos rfl)

/-- The store in which the creation of a service ends, if it gets as far as the engine. -/
def registering? (r : Registry (Engine.controlRuntime regime)) (d : ServiceDescriptor)
    (sink : Sink) : Option (Store guests) :=
  match (r.ready : Except HostError Engine), d.facadeName? with
  | .ok e, some _ => some (Service.registering e.regime e.control d sink)
  | _, _ => none

/-- **The records of a registration are those of the store in which it ended.** -/
theorem createService_records (r : Registry (Engine.controlRuntime regime)) (d : ServiceDescriptor)
    (sink : Sink) :
    (r.createService d sink).activity.records =
      ((r.registering? d sink).map (·.data.records)).getD [] := by
  unfold createService registering?
  cases hready : r.ready with
  | error cause => rfl
  | ok e =>
    cases hf : d.facadeName? with
    | none => rfl
    | some facade =>
      refine Eq.trans ?_ (Engine.register_records e d sink)
      show (r.register e d facade sink).activity.records = (Engine.register e d sink).records
      unfold register
      rcases hr : (Engine.register e d sink).result with _ | cause | handle
      all_goals simp only [Engine.controlRuntime, hr]

theorem registering?_eq_some {r : Registry (Engine.controlRuntime regime)} {d : ServiceDescriptor}
    {sink : Sink} {s : Store guests} (h : r.registering? d sink = some s) :
    ∃ e : Engine, r.runtime = some e ∧ s = Service.registering e.regime e.control d sink ∧
      ∀ service, (Service.build e.regime e.control d sink).result = some (.ok service) →
        service.store = settled s := by
  unfold registering? at h
  cases hready : r.ready with
  | error cause =>
    rw [hready] at h
    cases h
  | ok e =>
    cases hf : d.facadeName? with
    | none =>
      rw [hready, hf] at h
      cases h
    | some facade =>
      rw [hready, hf] at h
      cases h
      exact ⟨e, (ready_eq_ok hready).2, rfl, fun service => Service.store_of_build⟩

theorem settled_after (regime : Regime) (as : List Action) (e : Engine) (n : Nat)
    (service : Service)
    (he : ((uninitialized : Registry (Engine.controlRuntime regime)).after as).runtime = some e)
    (hservice : e.services.get? n = some service) : service.Settled := by
  have housed : Housed _ ((uninitialized : Registry (Engine.controlRuntime regime)).after as) _ :=
    housed_after Service.lasting_settled as
  obtain ⟨_, settled⟩ := (housed.hosts e he).exists_descriptor hservice
  exact settled

end Registry

end ModuleHost
