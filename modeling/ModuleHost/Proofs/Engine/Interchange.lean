import ModuleHost.Proofs.Engine.Agreement
import ModuleHost.Proofs.Engine.Arguments
import ModuleHost.Proofs.Engine.Delivery

/-!
# Positional and named arguments

* `Registry.signature?` — the function of a facade, as its callers reach it;
* `Service.invoke_congr` — texts that come to the same arguments invoke alike;
* **`Registry.named_or_positional`**: named arguments that give the parameters their values are as
  good as positional ones, as text and in every call.
-/

namespace ModuleHost

open Wasm (Regime)
open Json.Reader (maxDepth)

theorem Service.invoke_congr {service : Service} {module function text text' : String}
    {m : RegisteredModule} (hm : service.modules.get? module = some m)
    (same : ∀ f, m.interface.function? function = some f → f.arguments text = f.arguments text')
    (regime : Regime) (parameters : CallParameters) :
    service.invoke regime module function text parameters =
      service.invoke regime module function text' parameters := by
  have hprepare : service.prepare module function text = service.prepare module function text' := by
    simp only [prepare, hm]
    cases hf : m.interface.function? function with
    | none => rfl
    | some f => simp only [same f hf]
  rw [invoke, invoke, hprepare]

namespace Registry

variable {regime : Regime}

/-- The function of a name that the facade of a service declares. -/
def signature? (r : Registry (Engine.controlRuntime regime)) (id function : String) :
    Option FunctionSignature := do
  let e ← r.runtime
  let entry ← r.services.get? id
  let service ← (Engine.services e).get? entry.handle.number
  let m ← service.modules.get? entry.facade
  m.interface.function? function

/-- Two operations show the same and leave the same registry. -/
structure Alike {R : ControlRuntime} {α : Type} (o o' : Outcome R α) : Prop where
  result : o.result = o'.result
  registry : o.registry = o'.registry
  records : o.activity.records = o'.activity.records

theorem Alike.refl {R : ControlRuntime} {α : Type} (o : Outcome R α) : Alike o o := ⟨rfl, rfl, rfl⟩

theorem Housed.alike {r : Registry (Engine.controlRuntime regime)} {t : List Traffic}
    (hh : Housed Service.Serves r t) {id function : String} {values : List Value} {named : Dict String Value}
    (positional_fits : (CallArgs.positional values).toValue.Fits maxDepth)
    (named_fits : (CallArgs.named named).toValue.Fits maxDepth)
    (names : ∀ f, r.signature? id function = some f → f.Names values named)
    (parameters : CallParameters) :
    Alike (r.callService id function (.positional values) parameters)
      (r.callService id function (.named named) parameters) := by
  unfold callService
  cases hr : r.ready with
  | error e => exact .refl _
  | ok e =>
    cases hentry : r.services.get? id with
    | none => exact .refl _
    | some entry =>
      obtain ⟨j, hj⟩ := positional_fits.encodes
      obtain ⟨j', hj'⟩ := named_fits.encodes
      have htext := CallArgs.encode_eq hj
      have htext' := CallArgs.encode_eq hj'
      have he := (ready_eq_ok hr).2
      obtain ⟨service, d, m, hservice, -, -, -, hm, md, -, hinterface⟩ := hh.service he hentry
      -- the engine reads the texts only to put the arguments in order
      have same : ∀ f, m.interface.function? function = some f →
          f.arguments j.compact = f.arguments j'.compact := by
        intro f hf
        obtain ⟨raw, hraw⟩ := Interface.parse_of_ofModule hinterface
        have distinct : f.params.Nodup :=
          Interface.nodup_params hraw f (List.mem_of_find?_eq_some hf)
        have hsignature : r.signature? id function = some f := by
          simp [signature?, he, hentry, hservice, hm, hf]
        exact FunctionSignature.arguments_congr distinct (names f hsignature) named_fits htext htext'
      have hinvoke : (Engine.controlRuntime regime).invoke e entry.handle entry.facade function
          j.compact parameters =
          (Engine.controlRuntime regime).invoke e entry.handle entry.facade function
            j'.compact parameters := by
        show Engine.invoke e _ _ _ _ _ = Engine.invoke e _ _ _ _ _
        rw [Engine.invoke_of_get? hservice, Engine.invoke_of_get? hservice,
          Service.invoke_congr hm same]
      rw [htext, htext']
      refine ⟨?_, ?_, ?_⟩ <;> simp only [Registry.invoke, hinvoke]

/-- **Named arguments are as good as positional ones.** If they give the parameters of a function
the same values, they come to the text of the positional arguments, and a call with them shows the
same and leaves the same registry. -/
theorem named_or_positional :
    (∀ (raw : Text) (i : Interface) (f : FunctionSignature) (values : List Value)
      (named : Dict String Value), Interface.parse raw = .ok i → f ∈ i.functions →
        f.Names values named → (CallArgs.named named).toValue.Fits maxDepth →
          ∃ text text', (CallArgs.positional values).encode = .ok text ∧
            (CallArgs.named named).encode = .ok text' ∧
            f.arguments text = .ok text ∧ f.arguments text' = .ok text) ∧
    ∀ (regime : Regime) (as : List Action) (id function : String) (values : List Value)
      (named : Dict String Value) (parameters : CallParameters),
      let r : Registry (Engine.controlRuntime regime) := uninitialized.after as
      (CallArgs.positional values).toValue.Fits maxDepth →
        (CallArgs.named named).toValue.Fits maxDepth →
          (∀ f, r.signature? id function = some f → f.Names values named) →
            Alike (r.callService id function (.positional values) parameters)
              (r.callService id function (.named named) parameters) :=
  ⟨fun _ _ f _ _ hparse hf names fits =>
    FunctionSignature.arguments_named (Interface.nodup_params hparse f hf) names fits,
    fun _ as _ _ _ _ parameters positional_fits named_fits names =>
      (housed_after Service.lasting_serves as).alike positional_fits named_fits names parameters⟩

/-- Metadata of a function of two parameters. -/
def twoParameters : Text :=
  Text.ofString (Json.fields [("functions",
    .array [.fields [("name", .string "f"), ("params", .strings ["y", "x"])]])]).compact

/-- Its arguments by name, and one more. -/
def namedArguments : Dict String Value :=
  ⟨[("w", .null), ("x", .array [.int (-1)]), ("y", .uint 2)], by decide⟩

theorem fits_namedArguments : (CallArgs.named namedArguments).toValue.Fits maxDepth :=
  ⟨by decide, namedArguments.sorted, trivial, ⟨by decide, trivial, trivial⟩, trivial, trivial⟩

/-- A registry with a service whose function `e` has the parameter `a`. -/
def echoRun : List Action :=
  [.init [0, 97, 115, 109, 1, 0, 0, 0],
    .operate (.create ⟨"s", [⟨"m", .owned echo, {}⟩], none⟩ .total)]

/-- Its argument by name, and one more. -/
def namedArgument : Dict String Value := ⟨[("a", .string "v"), ("b", .bool true)], by decide⟩

theorem named_or_positional_twoParameters :
    let f : FunctionSignature := ⟨"f", ["y", "x"]⟩
    let r : Registry (Engine.controlRuntime {}) := uninitialized.after echoRun
    Interface.parse twoParameters = .ok ⟨[f]⟩ ∧
      (∃ text text', (CallArgs.positional [.uint 2, .array [.int (-1)]]).encode = .ok text ∧
        (CallArgs.named namedArguments).encode = .ok text' ∧
        f.arguments text = .ok text ∧ f.arguments text' = .ok text) ∧
      r.signature? "s" "e" = some ⟨"e", ["a"]⟩ ∧
      Alike (r.callService "s" "e" (.positional [.string "v"]) {})
        (r.callService "s" "e" (.named namedArgument) {}) := by
  intro f r
  have hparse : Interface.parse twoParameters = .ok ⟨[f]⟩ := by decide +kernel
  have hsignature : r.signature? "s" "e" = some ⟨"e", ["a"]⟩ := by decide +kernel
  have names : ∀ f, r.signature? "s" "e" = some f → f.Names [.string "v"] namedArgument := by
    intro f hf
    cases hsignature.symm.trans hf
    exact .cons rfl .nil
  refine ⟨hparse, ?_, hsignature, ?_⟩
  · exact named_or_positional.1 twoParameters ⟨[f]⟩ f _ namedArguments hparse (by simp)
      (.cons rfl (.cons rfl .nil)) fits_namedArguments
  · exact named_or_positional.2 {} echoRun "s" "e" _ namedArgument {} ⟨by decide, trivial, trivial⟩
      ⟨by decide, namedArgument.sorted, trivial, trivial, trivial⟩ names

end Registry

end ModuleHost
