import ModuleHost.Proofs.Engine.Agreement
import ModuleHost.Proofs.Engine.Delivery

/-!
# What callers reach

Of all the functions of a service, callers reach those that the file of its facade declares.

* `Registry.FacadeOnly` — a function that the facade does not declare is missing;
* **`Registry.calls_follow_registrations`**: calls go to the facade last registered, over every
  runtime, and only to what it declares, over the engine.
-/

namespace ModuleHost

open Wasm (Regime)

theorem Interface.function?_eq_none {i : Interface} {function : String}
    (h : ∀ f ∈ i.functions, f.name ≠ function) : i.function? function = none :=
  List.find?_eq_none.2 fun f hf => by simpa using h f hf

theorem Service.invoke_undeclared {service : Service} {module function : String}
    {m : RegisteredModule} (hm : service.modules.get? module = some m)
    (undeclared : ∀ f ∈ m.interface.functions, f.name ≠ function) (regime : Regime)
    (arguments : String) (parameters : CallParameters) :
    service.invoke regime module function arguments parameters =
      .failed (.guest (.missingFunction function)) service := by
  have hprepare : service.prepare module function arguments =
      .error (.guest (.missingFunction function)) := by
    simp only [prepare, hm, Interface.function?_eq_none undeclared]
  rw [invoke, hprepare]

theorem Engine.put_self {e : Engine} {h : Handle} {service : Service}
    (hs : e.services.get? h.number = some service) : e.put h service = e := by
  have hservices : e.services.insert h.number service = e.services := by
    refine Dict.ext_get? fun n => ?_
    rw [Dict.get?_insert]
    split
    · next hn => rw [hn, hs]
    · rfl
  rw [put, hservices]

namespace Registry

variable {regime : Regime}

/-- A function that the facade last registered does not declare is missing, whatever else the
service has: to the engine with any arguments, and to callers whose arguments have a text. -/
def FacadeOnly (r : Registry (Engine.controlRuntime regime)) (t : List Traffic) : Prop :=
  ∀ id h d, latest t id = some (h, d) →
    ∃ (e : Engine) (md : ModuleDescriptor) (i : Interface), r.runtime = some e ∧
      d.facade? = some md ∧ Interface.ofModule md.bytes.bytes = .ok i ∧
      ∀ function, (∀ f ∈ i.functions, f.name ≠ function) →
        (∀ arguments parameters, e.invoke h md.importName function arguments parameters =
          .failed (.guest (.missingFunction function)) e) ∧
        ∀ args parameters arguments, args.encode = .ok arguments →
          r.callService id function args parameters =
            ⟨some (.error (.guest (.missingFunction function))), r,
              { traffic := [.invoked h md.importName function arguments parameters] }⟩

theorem Housed.facadeOnly {r : Registry (Engine.controlRuntime regime)} {t : List Traffic}
    (hh : Housed Service.Serves r t) (hp : r.phase = .initialized) : r.FacadeOnly t := by
  intro id h d hl
  obtain ⟨facade, hfacade, hentry⟩ := hh.follows.entry_of_latest (by simp [hp]) hl
  obtain ⟨e, he⟩ := Option.isSome_iff_exists.1 (hh.follows.consistent.runtime_iff.2 hp)
  obtain ⟨service, d', m, hservice, -, hl', -, hm, md, hmd, hinterface⟩ := hh.service he hentry
  -- the service fronts the very descriptor that was registered last
  obtain rfl : d = d' := by
    rw [hl] at hl'
    cases hl'
    rfl
  have hname : md.importName = facade := by
    rw [ServiceDescriptor.facadeName?, hmd] at hfacade
    exact Option.some.inj hfacade
  refine ⟨e, md, m.interface, he, hmd, hinterface, ?_⟩
  intro function undeclared
  have hmissing : ∀ arguments parameters, Engine.invoke e h facade function arguments parameters =
      .failed (.guest (.missingFunction function)) e := by
    intro arguments parameters
    rw [Engine.invoke_of_get? hservice, Service.invoke_undeclared hm undeclared]
    show Effect.failed _ (Engine.put e h service) = _
    rw [Engine.put_self hservice]
  rw [hname]
  refine ⟨hmissing, fun args parameters arguments ha => ?_⟩
  have hready : r.ready = .ok e := by rw [ready, gate, hp, he]
  have hinvoke : (Engine.controlRuntime regime).invoke e h facade function arguments parameters =
      .failed (.guest (.missingFunction function)) e := hmissing arguments parameters
  have hself : ({ r with runtime := some e } : Registry (Engine.controlRuntime regime)) = r := by
    rw [← he]
  rw [callService, hready, hentry, ha]
  simp only [Registry.invoke, hinvoke, Effect.failed, Option.map_some, readAnswer,
    HostError.ofRuntime, hself]

/-- **Calls follow the registrations.** Over every runtime a call goes to the facade last
registered under its id; over the engine only what the facade declares can be called. -/
theorem calls_follow_registrations :
    (∀ (R : ControlRuntime) (as : List Action),
      ((uninitialized : Registry R).after as).phase = .initialized →
        ((uninitialized : Registry R).after as).Routing ((uninitialized : Registry R).journal as)) ∧
    ∀ (regime : Regime) (as : List Action),
      ((uninitialized : Registry (Engine.controlRuntime regime)).after as).phase = .initialized →
        ((uninitialized : Registry (Engine.controlRuntime regime)).after as).FacadeOnly
          ((uninitialized : Registry (Engine.controlRuntime regime)).journal as) :=
  ⟨fun _ as => (follows_after as).routing, fun _ as => (housed_after Service.lasting_serves as).facadeOnly⟩

/-- Two services; the first is replaced, then refused. -/
def twoServices : List Action :=
  let service (id : String) (modules : List (String × Bytes)) : ServiceDescriptor :=
    ⟨id, modules.map fun m => ⟨m.1, .owned m.2, {}⟩, none⟩
  [.init [0, 97, 115, 109, 1, 0, 0, 0], .operate (.create (service "a" [("l", echo)]) .total),
    .operate (.create (service "b" [("m", echo)]) .total),
    .operate (.create (service "a" [("l", echo), ("n", echo)]) .total),
    .operate (.create (service "a" [("l", [])]) .total)]

theorem calls_follow_registrations_twoServices :
    let r : Registry (Engine.controlRuntime {}) := uninitialized
    (r.after twoServices).phase = .initialized ∧
      (latest (r.journal twoServices) "a").map (·.1) = some ⟨3⟩ ∧
      (r.after twoServices).serviceIds = ["a", "b"] ∧
      (r.after twoServices).facadeOf "a" = some "n" ∧
      (r.after twoServices).Routing (r.journal twoServices) ∧
      (r.after twoServices).FacadeOnly (r.journal twoServices) := by
  intro r
  have hp : (r.after twoServices).phase = .initialized := by decide +kernel
  refine ⟨hp, by decide +kernel, by decide +kernel, by decide +kernel, ?_, ?_⟩
  · exact calls_follow_registrations.1 _ twoServices hp
  · exact calls_follow_registrations.2 _ twoServices hp

end Registry

end ModuleHost
