import ModuleHost.Proofs.Engine.Isolation
import ModuleHost.Proofs.Registry.Routing
import ModuleHost.Proofs.Wasm.Parts

/-!
# The services of an engine

* `Engine.compile_whole` — the control module is whole;
* `Engine.register_ok`, `Engine.register_refused` — what a registration does to an engine;
* `Service.Lasting` — a property that registrations give to services and invocations keep;
* `Hosts` — the services of an engine are those of a registry with a journal, and have a property;
* **`Registry.Step.housed`**: every operation keeps that;
* `Registry.housed_after`, `Registry.housed_unbroken` — so does every run, or every run in which no
  operation breaks the context.
-/

namespace ModuleHost

open Wasm (Regime Module)

/-! ## Operations of an engine -/

namespace Engine

variable {e : Engine} {d : ServiceDescriptor} {sink : Sink}

theorem compile_whole {regime : Regime} {control : Bytes} (h : compile regime control = .ok e) :
    e.control.Whole := by
  unfold compile at h
  split at h
  · cases h
  · next m hm =>
    split at h
    · cases h
      exact Wasm.Module.whole_of_decode? hm
    · cases h

theorem register_ok {h : Handle} (hr : (e.register d sink).result = some (.ok h)) :
    ∃ service, (Service.build e.regime e.control d sink).result = some (.ok service) ∧
      h = ⟨e.nextHandle⟩ ∧ (e.register d sink).state = e.add service := by
  rcases hb : (Service.build e.regime e.control d sink).result with _ | cause | service
  · simp [register, hb, Effect.broken] at hr
  · simp [register, hb, Effect.failed] at hr
  · simp only [register, hb, Effect.returned, Option.some.injEq, Except.ok.injEq] at hr ⊢
    exact ⟨service, rfl, hr.symm, rfl⟩

theorem register_refused (hr : ∀ h, (e.register d sink).result ≠ some (.ok h)) :
    (e.register d sink).state = e := by
  rcases hb : (Service.build e.regime e.control d sink).result with _ | cause | service
  · simp only [register, hb, Effect.broken]
  · simp only [register, hb, Effect.failed]
  · simp [register, hb, Effect.returned] at hr

theorem get?_add (service : Service) (n : Nat) :
    (e.add service).services.get? n =
      if n = e.nextHandle then some service else e.services.get? n :=
  Dict.get?_insert ..

theorem get?_release (h : Handle) (n : Nat) :
    (e.release h).services.get? n = if n = h.number then none else e.services.get? n :=
  Dict.get?_erase ..

theorem invoke_of_get? {h : Handle} {service : Service}
    (hs : e.services.get? h.number = some service) (module function arguments : String)
    (parameters : CallParameters) :
    e.invoke h module function arguments parameters =
      (service.invoke e.regime module function arguments parameters).mapState (e.put h) := by
  rw [invoke, hs]

theorem register_keeps {n : Nat} {service : Service} (hn : e.services.get? n = some service)
    (below : n < e.nextHandle) (d : ServiceDescriptor) (sink : Sink) :
    (e.register d sink).state.services.get? n = some service := by
  rcases hr : (e.register d sink).result with _ | cause | h
  · rw [register_refused (by simp [hr]), hn]
  · rw [register_refused (by simp [hr]), hn]
  · obtain ⟨service', -, -, hstate⟩ := register_ok hr
    rw [hstate, get?_add, if_neg (Nat.ne_of_lt below), hn]

theorem get?_put (h : Handle) (service : Service) (n : Nat) :
    (e.put h service).services.get? n = if n = h.number then some service else e.services.get? n :=
  Dict.get?_insert ..

end Engine

/-! ## The services of a registry -/

/-- A registration gives the property. -/
def Service.Built (B : ServiceDescriptor → Service → Prop) : Prop :=
  ∀ (regime : Regime) (control : Module) (d : ServiceDescriptor) (sink : Sink) (service : Service),
    control.Whole → (build regime control d sink).result = some (.ok service) → B d service

/-- A property of services, each with the descriptor that it was registered with. -/
structure Service.Lasting (B : ServiceDescriptor → Service → Prop) : Prop where
  built : Built B
  invoked : ∀ regime d service module function arguments parameters, B d service →
    B d (service.invoke regime module function arguments parameters).state

/-- The services of an engine are those of a registry whose journal is `t`. -/
structure Hosts (B : ServiceDescriptor → Service → Prop) (e : Engine)
    (services : Dict String ServiceEntry) (t : List Traffic) : Prop where
  whole : e.control.Whole
  linked : Linked e services
  /-- Every service has an id. -/
  named : ∀ n service, e.services.get? n = some service →
    ∃ id entry, services.get? id = some entry ∧ entry.handle.number = n
  /-- A service was built from the descriptor last registered under its id. -/
  tracked : ∀ id entry service, services.get? id = some entry →
    e.services.get? entry.handle.number = some service →
      ∃ d, latest t id = some (entry.handle, d) ∧ B d service

namespace Hosts

variable {B : ServiceDescriptor → Service → Prop} {e e' : Engine}
  {services : Dict String ServiceEntry} {t t' : List Traffic}

theorem empty (e : Engine) (he : e.services = Dict.empty) (whole : e.control.Whole)
    (t : List Traffic) : Hosts B e Dict.empty t where
  whole := whole
  linked := .empty e
  named n service h := by
    rw [he] at h
    cases h
  tracked id entry service h := by cases h

theorem quiet (hh : Hosts B e services t) (hi : issued t' = []) :
    Hosts B e services (t ++ t') where
  whole := hh.whole
  linked := hh.linked
  named := hh.named
  tracked id entry service he hs := by
    obtain ⟨d, hl, hb⟩ := hh.tracked id entry service he hs
    exact ⟨d, by rw [latest_append, latest_of_issued hi, Option.none_or, hl], hb⟩

theorem exists_descriptor (hh : Hosts B e services t) {n : Nat} {service : Service}
    (hn : e.services.get? n = some service) : ∃ d, B d service := by
  obtain ⟨id, entry, he, rfl⟩ := hh.named n service hn
  obtain ⟨d, -, hb⟩ := hh.tracked id entry service he hn
  exact ⟨d, hb⟩

/-- A service is put back after an operation. -/
theorem put (hh : Hosts B e services t) {id : String} {entry : ServiceEntry}
    (present : services.get? id = some entry) {service service' : Service}
    (hs : e.services.get? entry.handle.number = some service)
    (kept : ∀ d, B d service → B d service') :
    Hosts B (e.put entry.handle service') services t where
  whole := hh.whole
  linked := (hh.linked.put present service').1
  named n s hn := by
    rw [Engine.get?_put] at hn
    split at hn
    · next heq => exact ⟨id, entry, present, heq.symm⟩
    · exact hh.named n s hn
  tracked id' entry' s he hn := by
    rw [Engine.get?_put] at hn
    split at hn
    · next heq =>
      cases hn
      obtain rfl := hh.linked.apart _ _ _ _ he present heq
      obtain rfl : entry' = entry := Option.some.inj (he.symm.trans present)
      obtain ⟨d, hl, hb⟩ := hh.tracked id' entry' service he hs
      exact ⟨d, hl, kept d hb⟩
    · exact hh.tracked id' entry' s he hn

/-- A service is entered under the next handle, and the one that its id led to is dropped. -/
theorem enter (hh : Hosts B e services t) (d : ServiceDescriptor) (facade : String)
    {service : Service} (hs : List Handle)
    (new : e'.services.get? e.nextHandle = some service)
    (others : ∀ n, n ≠ e.nextHandle →
      (∀ old, services.get? d.serviceId = some old → n ≠ old.handle.number) →
      e'.services.get? n = e.services.get? n)
    (gone : ∀ old, services.get? d.serviceId = some old →
      e'.services.get? old.handle.number = none)
    (next : e'.nextHandle = e.nextHandle + 1) (control : e'.control = e.control)
    (built : B d service) :
    Hosts B e' (services.insert d.serviceId ⟨⟨e.nextHandle⟩, facade⟩)
      (t ++ .registered ⟨e.nextHandle⟩ d :: hs.map .released) := by
  refine ⟨control ▸ hh.whole, (hh.linked.enter d.serviceId facade new others next).1,
    fun n s hn => ?_, fun id entry s he hn => ?_⟩
  · by_cases hne : n = e.nextHandle
    · exact ⟨d.serviceId, _, by rw [Dict.get?_insert, if_pos rfl], hne.symm⟩
    · -- a service of the new engine is one of the old engine that was not dropped
      have hnot : ∀ old, services.get? d.serviceId = some old → n ≠ old.handle.number := by
        rintro old ho rfl
        rw [gone old ho] at hn
        cases hn
      rw [others n hne hnot] at hn
      obtain ⟨id, entry, he, rfl⟩ := hh.named n s hn
      have hid : id ≠ d.serviceId := by
        rintro rfl
        exact hnot entry he rfl
      exact ⟨id, entry, by rw [Dict.get?_insert, if_neg hid, he], rfl⟩
  · rw [latest_append, latest_registered]
    rw [Dict.get?_insert] at he
    split at he
    · next hid =>
      cases he
      rw [new] at hn
      cases hn
      exact ⟨d, by rw [if_pos hid, Option.some_or], built⟩
    · next hid =>
      rw [hh.linked.kept others hid he] at hn
      obtain ⟨d', hl, hb⟩ := hh.tracked id entry s he hn
      exact ⟨d', by rw [if_neg hid, Option.none_or, hl], hb⟩

/-- A service is the first of its id. -/
theorem register (hh : Hosts B e services t) (built : Service.Built B) {d : ServiceDescriptor}
    {sink : Sink} {h : Handle} (accepted : (e.register d sink).result = some (.ok h))
    (absent : services.get? d.serviceId = none) (facade : String) :
    Hosts B (e.register d sink).state (services.insert d.serviceId ⟨h, facade⟩)
      (t ++ [.registered h d]) := by
  obtain ⟨service, hb, rfl, hstate⟩ := Engine.register_ok accepted
  rw [hstate]
  refine hh.enter d facade [] ?_ (fun n hn _ => ?_) (fun old ho => ?_) rfl rfl
    (built _ _ d sink service hh.whole hb)
  · rw [Engine.get?_add, if_pos rfl]
  · rw [Engine.get?_add, if_neg hn]
  · rw [absent] at ho
    cases ho

/-- A service replaces another of its id. -/
theorem replace (hh : Hosts B e services t) (built : Service.Built B) {d : ServiceDescriptor}
    {sink : Sink} {h : Handle} (accepted : (e.register d sink).result = some (.ok h))
    {old : ServiceEntry} (present : services.get? d.serviceId = some old) (facade : String) :
    Hosts B ((e.register d sink).state.release old.handle)
      (services.insert d.serviceId ⟨h, facade⟩)
      (t ++ [.registered h d, .released old.handle]) := by
  obtain ⟨service, hb, rfl, hstate⟩ := Engine.register_ok accepted
  have hbelow : e.nextHandle ≠ old.handle.number := Nat.ne_of_gt (hh.linked.below _ _ present)
  rw [hstate]
  refine hh.enter d facade [old.handle] ?_ (fun n hn ho => ?_) (fun old' ho => ?_) rfl rfl
    (built _ _ d sink service hh.whole hb)
  · rw [Engine.get?_release, if_neg hbelow, Engine.get?_add, if_pos rfl]
  · rw [Engine.get?_release, if_neg (ho old present), Engine.get?_add, if_neg hn]
  · obtain rfl : old = old' := Option.some.inj (present.symm.trans ho)
    rw [Engine.get?_release, if_pos rfl]

/-- A function of a service is invoked. -/
theorem invoke (hh : Hosts B e services t) {id : String} {entry : ServiceEntry}
    (present : services.get? id = some entry) {module function arguments : String}
    {parameters : CallParameters}
    (kept : ∀ d service, e.services.get? entry.handle.number = some service → B d service →
      B d (service.invoke e.regime module function arguments parameters).state) :
    Hosts B (e.invoke entry.handle module function arguments parameters).state services t := by
  obtain ⟨service, hs⟩ := hh.linked.live id entry present
  rw [Engine.invoke_of_get? hs]
  exact hh.put present hs fun d => kept d service hs

end Hosts

/-! ## Runs -/

namespace Registry

variable {regime : Regime} {B : ServiceDescriptor → Service → Prop}

/-- A registry follows its journal and its engine hosts its services. -/
structure Housed (B : ServiceDescriptor → Service → Prop)
    (r : Registry (Engine.controlRuntime regime)) (t : List Traffic) : Prop where
  follows : r.Follows t
  hosts : ∀ e, r.runtime = some e → Hosts B e r.services t

theorem housed_uninitialized :
    Housed B (uninitialized : Registry (Engine.controlRuntime regime)) [] :=
  ⟨follows_uninitialized, fun _ h => nomatch h⟩

/-- **Every operation leaves the engine with the services of the registry.** -/
theorem Step.housed {r r' : Registry (Engine.controlRuntime regime)} {t t' : List Traffic}
    (hs : Step r r' t') (hh : Housed B r t) (built : Service.Built B)
    (kept : ∀ (e : Engine) h module function arguments parameters, r.runtime = some e →
      t' = [.invoked h module function arguments parameters] →
      ∀ d service, e.services.get? h.number = some service → B d service →
        B d (service.invoke e.regime module function arguments parameters).state) :
    Housed B r' (t ++ t') := by
  refine ⟨hs.follows hh.follows, ?_⟩
  cases hs with
  | still => simpa using hh.hosts
  | notCompiled => exact fun e he => (hh.hosts e he).quiet rfl
  | @compiled control s phase compiled =>
    intro e he
    cases he
    have whole := Engine.compile_whole compiled
    obtain ⟨m, rfl⟩ := Engine.compile_eq_ok compiled
    have hempty : r.services = Dict.empty :=
      hh.follows.consistent.services_empty (by simp [phase])
    rw [hempty]
    exact .empty _ rfl whole _
  | @notRegistered s d sink phase runtime refused =>
    intro e he
    cases he
    have hstate : (Engine.register s d sink).state = s := Engine.register_refused refused
    have hs := (hh.hosts s runtime).quiet issued_nil
    rw [← hstate] at hs
    exact hs
  | registered phase runtime facade_eq accepted absent =>
    intro e he
    cases he
    exact (hh.hosts _ runtime).register built accepted absent _
  | replaced phase runtime facade_eq accepted present =>
    intro e he
    cases he
    exact (hh.hosts _ runtime).replace built accepted present _
  | invoked function arguments parameters phase runtime present =>
    intro e he
    cases he
    refine ((hh.hosts _ runtime).invoke present ?_).quiet rfl
    exact kept _ _ _ _ _ _ runtime rfl
  | terminated => exact fun _ h => nomatch h

theorem Step.housed_of_lasting {r r' : Registry (Engine.controlRuntime regime)}
    {t t' : List Traffic} (hs : Step r r' t') (hh : Housed B r t) (lasting : Service.Lasting B) :
    Housed B r' (t ++ t') :=
  hs.housed hh lasting.built fun e _ module function arguments parameters _ _ d service _ =>
    lasting.invoked e.regime d service module function arguments parameters

theorem housed_after (lasting : Service.Lasting B) (as : List Action) :
    Housed B ((uninitialized : Registry (Engine.controlRuntime regime)).after as)
      ((uninitialized : Registry (Engine.controlRuntime regime)).journal as) :=
  run_induction (P := fun r t => Housed B r t)
    (fun _ _ _ _ hh hs => hs.housed_of_lasting hh lasting) as _ [] housed_uninitialized

/-- No operation of a run breaks the context. -/
def Unbroken {R : ControlRuntime} (r : Registry R) : List Action → Prop
  | [] => True
  | a :: as => (r.perform a).result.isSome ∧ (r.perform a).registry.Unbroken as

/-- An operation that invokes a function breaks the context if the invocation does. -/
theorem invoke_isSome {R : ControlRuntime} {r : Registry R} {t : List Traffic}
    (hf : r.Follows t) {s : R.State} (hs : r.runtime = some s) {a : Action}
    (hresult : (r.perform a).result.isSome) {h : Handle} {module function arguments : String}
    {parameters : CallParameters} (htraffic : (r.perform a).activity.traffic =
      [.invoked h module function arguments parameters]) :
    (R.invoke s h module function arguments parameters).result.isSome := by
  have hp : r.phase = .initialized := hf.consistent.runtime_iff.1 (by rw [hs]; rfl)
  have hg : r.gate = .ok () := by rw [gate, hp]
  have hready : r.ready = .ok s := by rw [ready, hg, hs]
  obtain ⟨id, d, hcalls, -⟩ := hf.invoked hg (htraffic ▸ List.mem_singleton_self _)
  obtain ⟨args, parameters', hperform⟩ := perform_of_calls hcalls
  rw [hperform, Outcome.map] at hresult htraffic
  replace hresult : (r.callService id function args parameters').result.isSome := by
    rwa [Option.isSome_map] at hresult
  rw [callService, hready] at hresult htraffic
  cases he : r.services.get? id with
  | none => simp [he, Outcome.still] at htraffic
  | some entry =>
    cases ha : args.encode with
    | error e => simp [he, ha, Outcome.still] at htraffic
    | ok text =>
      simp only [he, ha, Registry.invoke, Option.isSome_map] at hresult htraffic
      cases htraffic
      exact hresult

theorem housed_unbroken (built : Service.Built B)
    (kept : ∀ regime d service module function arguments parameters, B d service →
      (Service.invoke regime service module function arguments parameters).result.isSome →
      B d (service.invoke regime module function arguments parameters).state) :
    ∀ (as : List Action) (r : Registry (Engine.controlRuntime regime)) (t : List Traffic),
      Housed B r t → r.Unbroken as → Housed B (r.after as) (t ++ r.journal as)
  | [], r, t, hh, _ => by simpa [after, journal] using hh
  | a :: as, r, t, hh, ⟨hresult, hrest⟩ => by
    rw [after, journal, ← List.append_assoc]
    refine housed_unbroken built kept as _ _ ((step_perform r a).housed hh built ?_) hrest
    intro e h module function arguments parameters he htraffic d service hn hb
    have hinvoke : (Engine.invoke e h module function arguments parameters).result.isSome :=
      invoke_isSome hh.follows he hresult htraffic
    rw [Engine.invoke_of_get? hn] at hinvoke
    exact kept _ d service _ _ _ _ hb hinvoke

end Registry

end ModuleHost
