import ModuleHost.Proofs.Engine.Hosting
import ModuleHost.Proofs.Engine.Registration

/-!
# The registry and its engine agree

* `Service.Serves` — a service is sound and fronts its descriptor; so it stays;
* `Registry.Agreement` — what follows for handles, calls and siblings;
* **`Registry.agreement_after`**: every run leaves a registry that agrees with its engine.
-/

namespace ModuleHost

open Wasm (Regime)

/-- A service is sound and has the facade of its descriptor. -/
structure Service.Serves (d : ServiceDescriptor) (service : Service) : Prop where
  sound : service.Sound
  fronts : service.Fronts d

theorem Service.lasting_serves : Lasting Serves where
  built _ _ _ _ _ _ h := ⟨(build_ok h).1, (build_ok h).2⟩
  invoked regime d service module function arguments parameters h := by
    obtain ⟨sound, modules⟩ := h.sound.invoke regime module function arguments parameters
    exact ⟨sound, by rw [Fronts, modules]; exact h.fronts⟩

/-! ## Agreement -/

/-- A module that is part of a service fails only as a guest. -/
theorem Service.invoke_error {service : Service} {module : String} {m : RegisteredModule}
    (hm : service.modules.get? module = some m) {regime : Regime} {function arguments : String}
    {parameters : CallParameters} {cause : RuntimeError}
    (h : (service.invoke regime module function arguments parameters).result =
      some (.error cause)) :
    ∃ g, cause = .guest g := by
  have hprepare : ∀ e, service.prepare module function arguments = .error e →
      ∃ g, e = .guest g := by
    intro e he
    simp only [prepare, hm] at he
    split at he
    · cases he
      exact ⟨_, rfl⟩
    · split at he
      · cases he
        exact ⟨_, rfl⟩
      · cases he
  unfold invoke at h
  split at h
  · next e he =>
    cases h
    exact hprepare _ he
  · split at h
    · cases h
    · split at h
      · cases h
        exact ⟨_, rfl⟩
      · cases h

namespace Registry

variable {regime : Regime}

/-- A caller is told a failure of the runtime as such only if it was one. -/
theorem readAnswer_runtime {function : String} {answer : Except RuntimeError String}
    {cause : RuntimeError} (h : readAnswer function answer = .error (.runtime cause)) :
    answer = .error cause ∧ ∀ g, cause ≠ .guest g := by
  cases answer with
  | error e =>
    cases e with
    | guest => cases h
    | _ =>
      cases h
      exact ⟨rfl, fun g hg => nomatch hg⟩
  | ok raw =>
    simp only [readAnswer, readReply] at h
    split at h
    · cases h
    · split at h <;> cases h

theorem ready_error {R : ControlRuntime} {r : Registry R} {e : HostError} (h : r.ready = .error e)
    (cause : RuntimeError) : e ≠ .runtime cause := by
  unfold ready gate at h
  cases hp : r.phase <;> cases hr : r.runtime <;> simp_all
  all_goals exact h ▸ nofun

/-- A registry agrees with its engine. -/
structure Agreement (r : Registry (Engine.controlRuntime regime)) : Prop where
  /-- The engine holds services under the handles of the registry and no others. -/
  handles : ∀ e : Engine, r.runtime = some e →
    e.services.keys.Perm (r.services.values.map (·.handle.number))
  below : ∀ e : Engine, r.runtime = some e → ∀ n ∈ e.services.keys, n < e.nextHandle
  idle : r.runtime = none → r.services = Dict.empty
  /-- An id leads to a service with its facade, whose tables agree and whose instances can be
  called. -/
  live : ∀ (e : Engine) id entry, r.runtime = some e → r.services.get? id = some entry →
    ∃ service, e.services.get? entry.handle.number = some service ∧ service.Sound ∧
      ∃ m, service.modules.get? entry.facade = some m
  /-- A call finds its service and the facade: the engine knows the handle and the module. -/
  callService_known : ∀ id function args parameters cause,
    (r.callService id function args parameters).result ≠ some (.error (.runtime cause))
  /-- A registration overwrites no service. -/
  register_keeps : ∀ (e : Engine) n service d sink, r.runtime = some e →
    e.services.get? n = some service → (e.register d sink).state.services.get? n = some service
  /-- Whatever calls did to the store of a service, its instances have allocators. -/
  allocators : ∀ (e : Engine) n service s, r.runtime = some e → e.services.get? n = some service →
    Evolves service.store s → ∀ name m, service.modules.get? name = some m →
      ∃ i a, s.instances[m.place]? = some i ∧ Allocator.ofInstance s i = .ok a
  /-- Sibling calls reach an instance of the service, and calls do no more than change the store. -/
  siblings : ∀ (e : Engine) n service, r.runtime = some e → e.services.get? n = some service →
    ∀ m function arguments parameters,
      (Service.callModule e.regime m function arguments parameters service.store).Within
        (Answers service.store) NeverMissing

namespace Housed

variable {r : Registry (Engine.controlRuntime regime)} {t : List Traffic}

theorem handles (hh : Housed Service.Serves r t) {e : Engine} (he : r.runtime = some e) :
    e.services.keys.Perm (r.services.values.map (·.handle.number)) := by
  have hs := hh.hosts e he
  refine (List.perm_ext_iff_of_nodup (Dict.nodup_keys _) ?_).2 fun n => ?_
  · exact Dict.nodup_map_values fun id id' entry entry' h h' =>
      hs.linked.apart id id' entry entry' h h'
  · simp only [Dict.mem_keys, List.mem_map, Dict.mem_values]
    constructor
    · rintro ⟨service, hn⟩
      obtain ⟨id, entry, hentry, hnumber⟩ := hs.named n service hn
      exact ⟨entry, ⟨id, hentry⟩, hnumber⟩
    · rintro ⟨entry, ⟨id, hentry⟩, rfl⟩
      exact hs.linked.live id entry hentry

/-- An id leads to a service that fronts the descriptor last registered under it. -/
theorem service (hh : Housed Service.Serves r t) {e : Engine} (he : r.runtime = some e) {id : String}
    {entry : ServiceEntry} (hentry : r.services.get? id = some entry) :
    ∃ service d m, e.services.get? entry.handle.number = some service ∧ service.Sound ∧
      latest t id = some (entry.handle, d) ∧ d.facadeName? = some entry.facade ∧
      service.modules.get? entry.facade = some m ∧
      ∃ md, d.facade? = some md ∧ Interface.ofModule md.bytes.bytes = .ok m.interface := by
  have hs := hh.hosts e he
  obtain ⟨service, hservice⟩ := hs.linked.live id entry hentry
  obtain ⟨d, hl, hserves⟩ := hs.tracked id entry service hentry hservice
  have hgoing : r.phase ≠ .terminated := by
    intro hp
    have hruntime := hh.follows.consistent.runtime_iff.1 (he ▸ rfl)
    rw [hp] at hruntime
    cases hruntime
  obtain ⟨d', hl', hfacade⟩ := hh.follows.latest_of_entry hgoing hentry
  obtain rfl : d = d' := by
    rw [hl] at hl'
    cases hl'
    rfl
  obtain ⟨md, hmd, hname⟩ := Option.map_eq_some_iff.1 hfacade
  obtain ⟨m, hm, hinterface⟩ := hserves.fronts md hmd
  exact ⟨service, d, m, hservice, hserves.sound, hl, hfacade, hname ▸ hm, md, hmd,
    hinterface⟩

theorem callService_known (hh : Housed Service.Serves r t) (id function : String) (args : CallArgs)
    (parameters : CallParameters) (cause : RuntimeError) :
    (r.callService id function args parameters).result ≠ some (.error (.runtime cause)) := by
  unfold callService
  cases hr : r.ready with
  | error e =>
    intro h
    cases h
    exact ready_error hr cause rfl
  | ok e =>
    cases hentry : r.services.get? id with
    | none => exact fun h => nomatch h
    | some entry =>
      cases ha : args.encode with
      | error e => exact fun h => nomatch h
      | ok arguments =>
        intro h
        obtain ⟨answer, hanswer, hread⟩ := Option.map_eq_some_iff.1 h
        obtain ⟨rfl, hguest⟩ := readAnswer_runtime hread
        obtain ⟨service, d, m, hservice, -, -, -, hm, -⟩ := hh.service (ready_eq_ok hr).2 hentry
        have hinvoke : (Engine.invoke e entry.handle entry.facade function arguments
            parameters).result = some (.error cause) := hanswer
        rw [Engine.invoke_of_get? hservice] at hinvoke
        obtain ⟨g, rfl⟩ := Service.invoke_error hm hinvoke
        exact hguest g rfl

theorem agreement (hh : Housed Service.Serves r t) : r.Agreement where
  handles _ := hh.handles
  below e he n hn := by
    obtain ⟨service, hservice⟩ := Dict.mem_keys.1 hn
    obtain ⟨id, entry, hentry, rfl⟩ := (hh.hosts e he).named n service hservice
    exact (hh.hosts e he).linked.below id entry hentry
  idle hr := by
    refine hh.follows.consistent.services_empty fun hp => ?_
    have hsome := hh.follows.consistent.runtime_iff.2 hp
    rw [hr] at hsome
    cases hsome
  live e id entry he hentry := by
    obtain ⟨service, _, m, hservice, sound, -, -, hm, -⟩ := hh.service he hentry
    exact ⟨service, hservice, sound, m, hm⟩
  callService_known := hh.callService_known
  register_keeps e n service d sink he hservice := by
    obtain ⟨id, entry, hentry, rfl⟩ := (hh.hosts e he).named n service hservice
    exact Engine.register_keeps hservice ((hh.hosts e he).linked.below id entry hentry) d sink
  allocators e n service s he hservice evolves name m hm := by
    obtain ⟨d, hserves⟩ := (hh.hosts e he).exists_descriptor hservice
    obtain ⟨i, hi, allocates⟩ := hserves.sound.instances name m hm
    obtain ⟨a, ha⟩ := (allocates.extend evolves.toExtends).ofInstance
    exact ⟨i, a, evolves.toExtends.getElem?_instances hi, ha⟩
  siblings e n service he hservice m function arguments parameters := by
    obtain ⟨d, hserves⟩ := (hh.hosts e he).exists_descriptor hservice
    exact hserves.sound.callModule e.regime m function arguments parameters

end Housed

/-- **Every run leaves a registry that agrees with its engine.** -/
theorem agreement_after (regime : Regime) (as : List Action) :
    ((uninitialized : Registry (Engine.controlRuntime regime)).after as).Agreement :=
  (housed_after Service.lasting_serves as).agreement

end Registry

end ModuleHost
