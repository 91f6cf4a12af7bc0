import ModuleHost.Registry.Command

/-!
# Runs of a registry

* `ServiceOp`, `Action` — an operation on a service; an operation of a registry;
* `Registry.operate`, `Registry.perform` — what they do;
* `Registry.after`, `Registry.journal` — the registry that a run leaves; what it asked of the
  runtime;
* `Registry.Step` — everything that one operation can do to a registry;
* **`step_perform`**: every operation is such a step.
-/

namespace ModuleHost

/-- An operation on a service. -/
inductive ServiceOp where
  | create (d : ServiceDescriptor) (sink : Sink)
  | call (id function : String) (args : CallArgs) (parameters : CallParameters)

/-- The id of the service that an operation is on. -/
def ServiceOp.target : ServiceOp → String
  | .create d _ => d.serviceId
  | .call id _ _ _ => id

/-- An operation of a registry. -/
inductive Action where
  | init (control : Bytes)
  | operate (op : ServiceOp)
  | terminate
  /-- A command of the execution context. -/
  | serve (sink : Sink) (command : Command)

namespace Registry

variable {R : ControlRuntime}

/-- Carries out an operation on a service. -/
def operate (r : Registry R) : ServiceOp → Outcome R Reply
  | .create d sink => (r.createService d sink).map .done
  | .call id function args parameters => (r.callService id function args parameters).map .value

/-- Carries out an operation. -/
def perform (r : Registry R) : Action → Outcome R Reply
  | .init control => (r.init control).map .done
  | .operate op => r.operate op
  | .terminate => r.terminate.map .done
  | .serve sink command => r.handle sink command

/-- The registry after operations in order. -/
def after (r : Registry R) : List Action → Registry R
  | [] => r
  | a :: as => (r.perform a).registry.after as

/-- What operations in order ask of the runtime. -/
def journal (r : Registry R) : List Action → List Traffic
  | [] => []
  | a :: as => (r.perform a).activity.traffic ++ (r.perform a).registry.journal as

theorem after_append (r : Registry R) (as bs : List Action) :
    r.after (as ++ bs) = (r.after as).after bs := by
  induction as generalizing r with
  | nil => rfl
  | cons a as ih => exact ih _

/-! ## Steps -/

/-- One operation takes the registry `r` to another and asks something of the runtime. -/
inductive Step (r : Registry R) : Registry R → List Traffic → Prop where
  | still : Step r r []
  | notCompiled {control : Bytes} {e : RuntimeError} (phase : r.phase = .uninitialized)
      (compiled : R.compile control = .error e) : Step r r [.compiled control]
  | compiled {control : Bytes} {s : R.State} (phase : r.phase = .uninitialized)
      (compiled : R.compile control = .ok s) :
      Step r { r with phase := .initialized, runtime := some s } [.compiled control]
  | notRegistered {s : R.State} (d : ServiceDescriptor) (sink : Sink)
      (phase : r.phase = .initialized) (runtime : r.runtime = some s)
      (refused : ∀ h, (R.register s d sink).result ≠ some (.ok h)) :
      Step r { r with runtime := some (R.register s d sink).state } []
  /-- The service is the first of its id. -/
  | registered {s : R.State} {d : ServiceDescriptor} {sink : Sink} {facade : String} {h : Handle}
      (phase : r.phase = .initialized) (runtime : r.runtime = some s)
      (facade_eq : d.facadeName? = some facade)
      (accepted : (R.register s d sink).result = some (.ok h))
      (absent : r.services.get? d.serviceId = none) :
      Step r
        { r with
          runtime := some (R.register s d sink).state
          services := r.services.insert d.serviceId ⟨h, facade⟩ }
        [.registered h d]
  /-- The service replaces another of its id. -/
  | replaced {s : R.State} {d : ServiceDescriptor} {sink : Sink} {facade : String} {h : Handle}
      {old : ServiceEntry} (phase : r.phase = .initialized) (runtime : r.runtime = some s)
      (facade_eq : d.facadeName? = some facade)
      (accepted : (R.register s d sink).result = some (.ok h))
      (present : r.services.get? d.serviceId = some old) :
      Step r
        { r with
          runtime := some (R.release (R.register s d sink).state old.handle)
          services := r.services.insert d.serviceId ⟨h, facade⟩ }
        [.registered h d, .released old.handle]
  | invoked {s : R.State} {id : String} {entry : ServiceEntry} (function arguments : String)
      (parameters : CallParameters) (phase : r.phase = .initialized)
      (runtime : r.runtime = some s) (present : r.services.get? id = some entry) :
      Step r
        { r with
          runtime := some
            (R.invoke s entry.handle entry.facade function arguments parameters).state }
        [.invoked entry.handle entry.facade function arguments parameters]
  | terminated (phase : r.phase ≠ .terminated) : Step r { phase := .terminated } r.releases

theorem ready_eq_ok {r : Registry R} {s : R.State} (h : r.ready = .ok s) :
    r.phase = .initialized ∧ r.runtime = some s := by
  unfold ready gate at h
  cases hp : r.phase <;> cases hr : r.runtime <;> simp_all

theorem step_init (r : Registry R) (control : Bytes) :
    Step r (r.init control).registry (r.init control).activity.traffic := by
  unfold init
  cases hp : r.phase with
  | initialized => exact .still
  | terminated => exact .still
  | uninitialized =>
    cases hc : R.compile control with
    | error e => exact .notCompiled hp hc
    | ok s => exact .compiled hp hc

theorem step_register {r : Registry R} {s : R.State} (hp : r.phase = .initialized)
    (hr : r.runtime = some s) {d : ServiceDescriptor} {facade : String}
    (hf : d.facadeName? = some facade) (sink : Sink) :
    Step r (r.register s d facade sink).registry (r.register s d facade sink).activity.traffic := by
  rcases he : (R.register s d sink).result with _ | e | h
  · have := Step.notRegistered d sink hp hr fun h => by simp [he]
    simpa [register, he] using this
  · have := Step.notRegistered d sink hp hr fun h => by simp [he]
    simpa [register, he] using this
  · cases ho : r.services.get? d.serviceId with
    | none => simpa [register, enter, he, ho] using Step.registered hp hr hf he ho
    | some old => simpa [register, enter, he, ho] using Step.replaced hp hr hf he ho

theorem step_createService (r : Registry R) (d : ServiceDescriptor) (sink : Sink) :
    Step r (r.createService d sink).registry (r.createService d sink).activity.traffic := by
  unfold createService
  cases hs : r.ready with
  | error e => exact .still
  | ok s =>
    obtain ⟨hp, hr⟩ := ready_eq_ok hs
    cases hf : d.facadeName? with
    | none => exact .still
    | some facade => exact step_register hp hr hf sink

theorem step_callService (r : Registry R) (id function : String) (args : CallArgs)
    (parameters : CallParameters) :
    Step r (r.callService id function args parameters).registry
      (r.callService id function args parameters).activity.traffic := by
  unfold callService
  cases hs : r.ready with
  | error e => exact .still
  | ok s =>
    obtain ⟨hp, hr⟩ := ready_eq_ok hs
    cases he : r.services.get? id with
    | none => exact .still
    | some entry =>
      cases ha : args.encode with
      | error e => exact .still
      | ok arguments => exact .invoked function arguments parameters hp hr he

theorem step_terminate (r : Registry R) :
    Step r r.terminate.registry r.terminate.activity.traffic := by
  unfold terminate
  by_cases hp : r.phase = .terminated
  · rw [if_pos hp]
    exact .still
  · rw [if_neg hp]
    exact .terminated hp

theorem step_handle (r : Registry R) (sink : Sink) (c : Command) :
    Step r (r.handle sink c).registry (r.handle sink c).activity.traffic := by
  cases c with
  | init control => exact step_init r control.bytes
  | createService id modules config envs =>
    change Step r (r.resolveAndCreate sink id modules config envs).registry
      (r.resolveAndCreate sink id modules config envs).activity.traffic
    unfold resolveAndCreate
    cases r.gate with
    | error e => exact .still
    | ok _ =>
      cases ServiceDescriptor.resolve id modules config envs with
      | error e => exact .still
      | ok d => exact step_createService r d sink
  | callService id function args parameters => exact step_callService r id function args parameters
  | serviceIds => exact .still
  | facadeOf id => exact .still
  | terminate => exact step_terminate r

/-- **Every operation of a registry is a step.** -/
theorem step_perform (r : Registry R) (a : Action) :
    Step r (r.perform a).registry (r.perform a).activity.traffic := by
  cases a with
  | init control => exact step_init r control
  | operate op =>
    cases op with
    | create d sink => exact step_createService r d sink
    | call id function args parameters => exact step_callService r id function args parameters
  | terminate => exact step_terminate r
  | serve sink command => exact step_handle r sink command

theorem run_induction {P : Registry R → List Traffic → Prop}
    (step : ∀ r r' t t', P r t → Step r r' t' → P r' (t ++ t')) :
    ∀ (as : List Action) (r : Registry R) (t : List Traffic), P r t →
      P (r.after as) (t ++ r.journal as)
  | [], r, t, h => by simpa [after, journal] using h
  | a :: as, r, t, h => by
    rw [after, journal, ← List.append_assoc]
    exact run_induction step as _ _ (step _ _ _ _ h (step_perform r a))

end Registry

end ModuleHost
