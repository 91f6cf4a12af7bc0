import ModuleHost.Engine.Control
import ModuleHost.Registry.Basic

/-!
# Calls that complete

A call of a service completes when its export runs to its end and its output can be read.

* `Service.completion`, `Registry.completion` — the output of a call that completes;
* `RawOutput.answer` — what the engine answers with that output;
* **`callService_of_completion`**: the caller is told that answer.
-/

namespace ModuleHost

open Wasm (Regime)

/-- The output of a function that completes. -/
def Service.completion (regime : Regime) (service : Service) (module function arguments : String)
    (parameters : CallParameters) : Option RawOutput :=
  match service.prepare module function arguments with
  | .error _ => none
  | .ok (m, ordered) =>
    match callModule regime m function ordered parameters service.store with
    | .value (.ok output) _ => some output
    | _ => none

/-- The engine's answer to an invocation of `function` that completes. -/
def RawOutput.answer (function : String) (o : RawOutput) : Except RuntimeError String :=
  match o.envelope function with
  | .ok envelope => .ok envelope.text
  | .error cause => .error (.guest cause)

theorem Service.invoke_of_completion {regime : Regime} {service : Service}
    {module function arguments : String} {parameters : CallParameters} {output : RawOutput}
    (h : service.completion regime module function arguments parameters = some output) :
    (service.invoke regime module function arguments parameters).result =
      some (output.answer function) := by
  unfold completion at h
  unfold Service.invoke
  cases hp : service.prepare module function arguments with
  | error cause => simp [hp] at h
  | ok prepared =>
    obtain ⟨m, ordered⟩ := prepared
    simp only [hp] at h ⊢
    cases hc : callModule regime m function ordered parameters service.store with
    | stop why s => simp [hc] at h
    | value called s =>
      cases called with
      | error cause => simp [hc] at h
      | ok o =>
        obtain rfl : o = output := by simpa [hc] using h
        simp only [Except.bind, RawOutput.answer]
        cases o.envelope function <;> rfl

namespace Registry

variable {regime : Regime}

/-- The output of a call that completes. -/
def completion (r : Registry (Engine.controlRuntime regime)) (id function : String)
    (args : CallArgs) (parameters : CallParameters) : Option RawOutput :=
  match r.ready, r.services.get? id, args.encode with
  | .ok e, some entry, .ok arguments =>
    match (Engine.services e).get? entry.handle.number with
    | none => none
    | some service =>
      service.completion (Engine.regime e) entry.facade function arguments parameters
  | _, _, _ => none

/-- **A call that completes tells its caller the answer of the engine.** -/
theorem callService_of_completion {r : Registry (Engine.controlRuntime regime)}
    {id function : String} {args : CallArgs} {parameters : CallParameters} {output : RawOutput}
    (h : r.completion id function args parameters = some output) :
    (r.callService id function args parameters).result =
      some (readAnswer function (output.answer function)) := by
  unfold completion at h
  unfold callService
  split at h
  · next e entry arguments hr he ha =>
    rw [hr, he, ha]
    split at h
    · cases h
    · next service hs =>
      have hinvoke : (Engine.invoke e entry.handle entry.facade function arguments
          parameters).result = some (output.answer function) := by
        unfold Engine.invoke
        rw [hs]
        exact Service.invoke_of_completion h
      show Option.map (readAnswer function) (Engine.invoke e _ _ _ _ _).result = _
      rw [hinvoke, Option.map_some]
  · cases h

end Registry

end ModuleHost
