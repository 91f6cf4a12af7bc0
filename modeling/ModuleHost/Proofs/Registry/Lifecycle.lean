import ModuleHost.Proofs.Registry.Run

/-!
# The lifecycle of a registry

* `Registry.Consistent` — phase, runtime and services agree;
* `Registry.Phase.Moves` — the phases that may follow a phase;
* `Registry.Lifecycle` — what the phase of a registry means for its operations;
* **`lifecycle_after`**: every run from the start leaves a registry with this lifecycle.
-/

namespace ModuleHost.Registry

variable {R : ControlRuntime}

/-- There is a runtime exactly in the initialized phase, and services only there. -/
structure Consistent (r : Registry R) : Prop where
  runtime_iff : r.runtime.isSome ↔ r.phase = .initialized
  services_empty : r.phase ≠ .initialized → r.services = Dict.empty

/-- The phases that one operation can lead to. -/
inductive Phase.Moves : Phase → Phase → Prop where
  | stays (p : Phase) : Moves p p
  | begins : Moves .uninitialized .initialized
  | ends (p : Phase) : Moves p .terminated

/-! ## What steps keep -/

theorem consistent_uninitialized : (uninitialized : Registry R).Consistent :=
  ⟨by simp [uninitialized], fun _ => rfl⟩

theorem Step.consistent {r r' : Registry R} {t : List Traffic} (h : Step r r' t)
    (hc : r.Consistent) : r'.Consistent := by
  cases h with
  | still => exact hc
  | notCompiled => exact hc
  | compiled => exact ⟨by simp, fun h => absurd rfl h⟩
  | notRegistered _ _ phase => exact ⟨by simp [phase], fun h => absurd phase h⟩
  | registered phase => exact ⟨by simp [phase], fun h => absurd phase h⟩
  | replaced phase => exact ⟨by simp [phase], fun h => absurd phase h⟩
  | invoked _ _ _ phase => exact ⟨by simp [phase], fun h => absurd phase h⟩
  | terminated => exact ⟨by simp, fun _ => rfl⟩

theorem Step.moves {r r' : Registry R} {t : List Traffic} (h : Step r r' t) :
    r.phase.Moves r'.phase := by
  cases h with
  | compiled phase =>
    rw [phase]
    exact .begins
  | terminated => exact .ends _
  | _ => exact .stays _

/-- A terminated registry stays as it is and asks nothing of a runtime. -/
theorem Step.of_terminated {r r' : Registry R} {t : List Traffic} (h : Step r r' t)
    (ht : r.phase = .terminated) : r' = r ∧ t = [] := by
  cases h with
  | still => exact ⟨rfl, rfl⟩
  | terminated phase => exact absurd ht phase
  | notCompiled phase | compiled phase | registered phase | replaced phase =>
    rw [ht] at phase
    cases phase
  | notRegistered _ _ phase | invoked _ _ _ phase =>
    rw [ht] at phase
    cases phase

theorem after_of_terminated {r : Registry R} (ht : r.phase = .terminated) (as : List Action) :
    r.after as = r := by
  induction as with
  | nil => rfl
  | cons a as ih =>
    rw [after, ((step_perform r a).of_terminated ht).1]
    exact ih

theorem consistent_after (as : List Action) : ((uninitialized : Registry R).after as).Consistent :=
  run_induction (P := fun r _ => r.Consistent) (fun _ _ _ _ hc hs => hs.consistent hc) as _ []
    consistent_uninitialized

/-! ## What operations give -/

theorem init_ok_iff (r : Registry R) (control : Bytes) :
    (r.init control).result = some (.ok ()) ↔
      r.phase = .uninitialized ∧ ∃ s, R.compile control = .ok s := by
  unfold init
  cases r.phase <;> cases R.compile control <;> simp [Outcome.still]

/-- That a registry cannot serve is told before anything else is looked at. -/
theorem handle_of_gate {r : Registry R} {e : HostError} (h : r.gate = .error e) (sink : Sink) :
    (∀ id modules config envs, r.handle sink (.createService id modules config envs) =
      .still (.done (.error e)) r) ∧
    (∀ id function args parameters, r.handle sink (.callService id function args parameters) =
      .still (.value (.error e)) r) := by
  refine ⟨fun id modules config envs => ?_, fun id function args parameters => ?_⟩
  · simp [handle, resolveAndCreate, h, Outcome.map, Outcome.still]
  · simp [handle, callService, ready, h, Outcome.map, Outcome.still]

theorem terminate_phase (r : Registry R) : r.terminate.registry.phase = .terminated := by
  unfold terminate
  by_cases hp : r.phase = .terminated
  · rw [if_pos hp]
    exact hp
  · rw [if_neg hp]

theorem terminate_of_terminated {r : Registry R} (ht : r.phase = .terminated) :
    r.terminate = .still (.ok ()) r := by
  rw [terminate, if_pos ht]

/-! ## The lifecycle -/

/-- What the phase of a registry means for its operations. -/
structure Lifecycle (r : Registry R) : Prop where
  consistent : r.Consistent
  moves : ∀ a, r.phase.Moves (r.perform a).registry.phase
  init_ok_iff : ∀ control, (r.init control).result = some (.ok ()) ↔
    r.phase = .uninitialized ∧ ∃ s, R.compile control = .ok s
  /-- A control module that compiles leaves the registry initialized, with the runtime that it
  compiles to and without services. -/
  init_ok : r.phase = .uninitialized → ∀ control runtime, R.compile control = .ok runtime →
    (r.init control).result = some (.ok ()) ∧
      (r.init control).registry.phase = .initialized ∧
      (r.init control).registry.runtime = some runtime ∧
      (r.init control).registry.services = Dict.empty
  /-- A control module that does not compile leaves the registry ready for another. -/
  init_error : r.phase = .uninitialized → ∀ control e, R.compile control = .error e →
    (r.init control).result = some (.error (.init e)) ∧ (r.init control).registry = r
  init_again : r.phase = .initialized → ∀ control,
    r.init control = .still (.error .alreadyInitialized) r
  init_late : r.phase = .terminated → ∀ control, r.init control = .still (.error .terminated) r
  /-- Services are neither created nor called before the registry is initialized. -/
  serve_early : r.phase = .uninitialized → ∀ sink,
    (∀ id modules config envs, r.handle sink (.createService id modules config envs) =
      .still (.done (.error .notInitialized)) r) ∧
    (∀ id function args parameters, r.handle sink (.callService id function args parameters) =
      .still (.value (.error .notInitialized)) r)
  /-- Services are neither created nor called after the registry is terminated. -/
  serve_late : r.phase = .terminated → ∀ sink,
    (∀ id modules config envs, r.handle sink (.createService id modules config envs) =
      .still (.done (.error .terminated)) r) ∧
    (∀ id function args parameters, r.handle sink (.callService id function args parameters) =
      .still (.value (.error .terminated)) r)
  terminate_ends : r.terminate.result = some (.ok ()) ∧ r.terminate.registry.phase = .terminated
  terminate_again : r.phase = .terminated → r.terminate = .still (.ok ()) r
  /-- No operation changes a terminated registry. -/
  after_terminated : r.phase = .terminated → ∀ as, r.after as = r ∧ r.journal as = []
  no_services : r.phase = .terminated → r.serviceIds = [] ∧ ∀ id, r.facadeOf id = none

theorem journal_of_terminated {r : Registry R} (ht : r.phase = .terminated) (as : List Action) :
    r.journal as = [] := by
  induction as with
  | nil => rfl
  | cons a as ih =>
    obtain ⟨hr, hj⟩ := (step_perform r a).of_terminated ht
    rw [journal, hr, hj, ih, List.append_nil]

theorem Consistent.lifecycle {r : Registry R} (hc : r.Consistent) : r.Lifecycle where
  consistent := hc
  moves a := (step_perform r a).moves
  init_ok_iff := init_ok_iff r
  init_ok hp control runtime he := by
    have empty : r.services = Dict.empty := hc.services_empty (by simp [hp])
    simp [init, hp, he, empty]
  init_error hp control e he := by simp [init, hp, he]
  init_again hp control := by simp [init, hp]
  init_late hp control := by simp [init, hp]
  serve_early hp := handle_of_gate (by simp [gate, hp])
  serve_late hp := handle_of_gate (by simp [gate, hp])
  terminate_ends := ⟨by unfold terminate; split <;> rfl, terminate_phase r⟩
  terminate_again := terminate_of_terminated
  after_terminated ht as := ⟨after_of_terminated ht as, journal_of_terminated ht as⟩
  no_services ht := by
    have hs : r.services = Dict.empty := hc.services_empty (by simp [ht])
    simp [serviceIds, facadeOf, hs, Dict.keys, Dict.empty, Dict.get?, Fields.get?]

/-- **Every run of a registry obeys the lifecycle.** -/
theorem lifecycle_after (as : List Action) : ((uninitialized : Registry R).after as).Lifecycle :=
  (consistent_after as).lifecycle

end ModuleHost.Registry
