import ModuleHost.Proofs.Engine.Reexports
import ModuleHost.Proofs.Engine.Reporting

/-!
# Which function an error names

A call can fail in many places, in the end inside a sibling of a sibling. The caller is always told
of the function that it asked for; the functions of siblings are named in the text only.

* `Called`, `ExportFailure` — how a call of an export fails, also one that a sibling makes;
* `Told`, `told_invariant` — every sibling call that fails tells how the sibling's function failed;
* `failure_of_callModule` — so does the call of a module;
* `Service.Failure` — everything that the caller of a function of a service can be told;
* **`Registry.callService_blames`**: a guest error names the function that was asked for.
-/

namespace ModuleHost

open Wasm (Store Run Instance Regime)

/-! ## Exports -/

/-- Functions of a store call a sibling's function of this name. -/
def Called (s : Store guests) (function : String) : Prop := ∃ module, CallsSibling s module function

/-- How a call of an export of a name fails. What fails in a sibling that it calls is told by its
text, and fails in one of these ways in turn. -/
inductive ExportFailure (called : String → Prop) : String → GuestError → Prop
  | missing {function : String} : ExportFailure called function (.missingFunction function)
  | trap {function : String} : ExportFailure called function (.fault function trapTag)
  /-- An access outside of memory. -/
  | access {function : String} : ExportFailure called function (.fault function engineTag)
  /-- A breach of the calling convention by the export itself. -/
  | breach {function : String} {fault : AbiFault} (own : ∀ cause, fault ≠ .sibling cause) :
      ExportFailure called function (.fault function fault.message)
  | sibling {function callee : String} {cause : GuestError} (calls : called callee)
      (inner : ExportFailure called callee cause) :
      ExportFailure called function (.fault function cause.message)

theorem ExportFailure.function_eq {called : String → Prop} {function : String} {cause : GuestError}
    (h : ExportFailure called function cause) : cause.function = function := by
  cases h <;> rfl

/-- A sibling call that ends guest code tells how the sibling's function failed. -/
def Told (s : Store guests) (why : GuestStop) : Prop :=
  ∀ cause, why = .raised (.sibling cause) →
    ∃ callee, Called s callee ∧ ExportFailure (Called s) callee cause

section

variable {s₀ s s' : Store guests} {function : String} {cause : GuestError}

theorem failure_of_fails (h : CallFails (Told s₀) function cause) :
    ExportFailure (Called s₀) function cause := by
  cases h with
  | missing => exact .missing
  | @stopped why told broken endless =>
    cases why with
    | trap => exact .trap
    | memoryFault => exact .access
    | broken => exact absurd rfl broken
    | endless => exact absurd rfl endless
    | raised fault =>
      by_cases own : ∀ cause, fault ≠ .sibling cause
      · exact .breach own
      · rw [not_forall_not] at own
        obtain ⟨cause, rfl⟩ := own
        obtain ⟨callee, calls, inner⟩ := told cause rfl
        exact .sibling calls inner

/-- **Every sibling call that fails tells how the sibling's function failed**, however deep. -/
theorem told_invariant (s₀ : Store guests) :
    GuestInvariant (fun s => s.functions = s₀.functions) (Told s₀) where
  steady := ⟨fun _ _ _ _ hs _ _ => hs, fun _ _ _ _ hs _ => hs⟩
  lenient := ⟨nofun, nofun, nofun⟩
  broken := nofun
  plain fault plain cause h := by
    cases h
    exact plain.elim
  records _ _ hs := hs
  free _ _ _ hs := hs
  parameters _ _ _ hs' := hs'
  sibling _ _ _ hs _ := hs
  missing _ _ _ _ _ _ cause h := nomatch h
  failed s module function cause hs calls fails cause' h := by
    cases h
    rw [CallsSibling, hs] at calls
    exact ⟨function, ⟨module, calls⟩, failure_of_fails fails⟩

theorem failure_of_callExport {regime : Regime} {stack : Nat} {i : Instance} {input : Bytes}
    (h : callExport i (Wasm.invoke hostFunctions regime stack none) function input s =
      .value (.error cause) s') : ExportFailure (Called s) function cause := by
  have rules := (told_invariant s).rules
  have exported := rules.confined.exportKeeps (rules.confined.keeps_invoke regime stack)
    (rules.mayCall i function)
  exact failure_of_fails (CallRules.fails_of_callExport exported rfl h)

theorem failure_of_callModule {regime : Regime} {m : RegisteredModule} {arguments : String}
    {parameters : CallParameters}
    (h : Service.callModule regime m function arguments parameters s = .value (.error cause) s') :
    ExportFailure (Called s) function cause := by
  have hcall : Service.callModule regime m function arguments parameters s =
      (callExport (s.instances.getD m.place {})
          (Wasm.invoke hostFunctions regime regime.stack none) function (Text.bytes arguments) >>=
        fun called => setParameters {} >>= fun _ => pure called) (equipped s parameters) := rfl
  rw [hcall] at h
  obtain ⟨called, s₁, hexport, hrest⟩ := Run.bind_eq_value.1 h
  cases hrest
  exact failure_of_callExport (s := equipped s parameters) hexport

end

/-! ## Services -/

theorem Interface.function?_name {i : Interface} {name : String} {f : FunctionSignature}
    (h : i.function? name = some f) : f.name = name := by
  simpa using List.find?_some h

theorem FunctionSignature.mismatch_of_arguments {f : FunctionSignature} {raw : String}
    {cause : GuestError} (h : f.arguments raw = .error cause) :
    ∃ reason, cause = .argumentMismatch f.name reason := by
  unfold FunctionSignature.arguments at h
  split at h
  · cases h
    exact ⟨_, rfl⟩
  · split at h
    · cases h
      exact ⟨_, rfl⟩
    · cases h

namespace Service

/-- Everything that the caller of a function of a module can be told. -/
inductive Failure (service : Service) (module function : String) : GuestError → Prop
  | undeclared {m : RegisteredModule} (registered : service.modules.get? module = some m)
      (undeclared : m.interface.function? function = none) :
      Failure service module function (.missingFunction function)
  | mismatched {m : RegisteredModule} {f : FunctionSignature} {raw reason : String}
      (registered : service.modules.get? module = some m)
      (declared : m.interface.function? function = some f)
      (mismatched : f.arguments raw = .error (.argumentMismatch function reason)) :
      Failure service module function (.argumentMismatch function reason)
  | exported {cause : GuestError} (fails : ExportFailure (Called service.store) function cause) :
      Failure service module function cause
  /-- The output is no JSON. -/
  | unreadable {output : RawOutput} {cause : Json.ReadError}
      (unreadable : Json.parseBytes output.bytes = .error cause) :
      Failure service module function (.fault function
        s!"returned invalid JSON: {cause.plainTag}, original text: {Text.lossy output.bytes}")
  | reported (message : String) : Failure service module function (.failed function message)

variable {service : Service} {module function : String} {cause : GuestError}

theorem Failure.function_eq (h : Failure service module function cause) :
    cause.function = function := by
  cases h with
  | undeclared | mismatched | unreadable | reported => rfl
  | exported fails => exact fails.function_eq

theorem failure_of_prepare {arguments : String}
    (h : service.prepare module function arguments = .error (.guest cause)) :
    Failure service module function cause := by
  unfold prepare at h
  split at h
  · cases h
  · next m hm =>
    split at h
    · next hnone =>
      cases h
      exact .undeclared hm hnone
    · next f hf =>
      split at h
      · next hmismatch =>
        cases h
        obtain ⟨reason, rfl⟩ := FunctionSignature.mismatch_of_arguments hmismatch
        rw [Interface.function?_name hf] at hmismatch ⊢
        exact .mismatched hm hf hmismatch
      · cases h

theorem failure_of_envelope {output : RawOutput} (h : output.envelope function = .error cause) :
    Failure service module function cause := by
  unfold RawOutput.envelope at h
  split at h
  · cases h
  · split at h
    · cases h
    · split at h
      · cases h
      · next hparse =>
        cases h
        exact .unreadable hparse

theorem failure_of_invoke {regime : Regime} {arguments : String} {parameters : CallParameters}
    (h : (service.invoke regime module function arguments parameters).result =
      some (.error (.guest cause))) : Failure service module function cause := by
  unfold invoke at h
  cases hp : service.prepare module function arguments with
  | error cause' =>
    rw [hp] at h
    cases h
    exact failure_of_prepare hp
  | ok prepared =>
    obtain ⟨m, ordered⟩ := prepared
    rw [hp] at h
    dsimp only at h
    cases hcalled : callModule regime m function ordered parameters service.store with
    | stop why s =>
      rw [hcalled] at h
      cases h
    | value called s =>
      rw [hcalled] at h
      cases called with
      | error cause' =>
        cases h
        exact .exported (failure_of_callModule hcalled)
      | ok output =>
        cases henvelope : output.envelope function with
        | error cause' =>
          simp only [Except.bind, henvelope] at h
          cases h
          exact failure_of_envelope henvelope
        | ok envelope =>
          simp only [Except.bind, henvelope] at h
          cases h

end Service

/-! ## Registries -/

namespace Registry

variable {regime : Regime}

theorem guest_of_readReply {function raw : String} {cause : GuestError}
    (h : readReply function raw = .error (.guest cause)) :
    ∃ message, cause = .failed function message := by
  unfold readReply at h
  split at h
  · cases h
  · split at h
    · cases h
    · cases h
      exact ⟨_, rfl⟩

/-- A guest error of a call comes from an invocation of the facade of its service. -/
theorem invocation_of_guest {r : Registry (Engine.controlRuntime regime)} {id function : String}
    {args : CallArgs} {parameters : CallParameters} {cause : GuestError}
    (h : (r.callService id function args parameters).result = some (.error (.guest cause))) :
    ∃ (e : Engine) (entry : ServiceEntry) (service : Service) (arguments : String)
      (answer : Except RuntimeError String), r.runtime = some e ∧
      r.services.get? id = some entry ∧ e.services.get? entry.handle.number = some service ∧
      (service.invoke e.regime entry.facade function arguments parameters).result = some answer ∧
      readAnswer function answer = .error (.guest cause) := by
  unfold callService at h
  cases hready : r.ready with
  | error cause' =>
    -- a registry that cannot serve tells why, and that is no guest error
    rw [hready] at h
    cases h
    unfold ready gate at hready
    cases hp : r.phase <;> cases hr : r.runtime <;> simp [hp, hr] at hready
  | ok e =>
    rw [hready] at h
    cases hentry : r.services.get? id with
    | none =>
      rw [hentry] at h
      cases h
    | some entry =>
      rw [hentry] at h
      cases harguments : args.encode with
      | error cause' =>
        rw [harguments] at h
        cases h
      | ok arguments =>
        rw [harguments] at h
        obtain ⟨answer, hanswer, htold⟩ := Option.map_eq_some_iff.1 h
        change (Engine.invoke e entry.handle entry.facade function arguments parameters).result = _
          at hanswer
        cases hs : Dict.get? (Engine.services e) entry.handle.number with
        | none =>
          simp only [Engine.invoke, hs] at hanswer
          cases hanswer
          cases htold
        | some service =>
          rw [Engine.invoke_of_get? hs] at hanswer
          exact ⟨e, entry, service, arguments, answer, (ready_eq_ok hready).2, rfl, hs, hanswer,
            htold⟩

/-- **A guest error names the function that was asked for**, wherever it arose; it is one of the
failures of that function, and what fails in siblings is told by its text. -/
theorem callService_blames (r : Registry (Engine.controlRuntime regime)) (id function : String)
    (args : CallArgs) (parameters : CallParameters) (cause : GuestError)
    (h : (r.callService id function args parameters).result = some (.error (.guest cause))) :
    cause.function = function ∧
      ∃ (e : Engine) (entry : ServiceEntry) (service : Service), r.runtime = some e ∧
        r.services.get? id = some entry ∧ e.services.get? entry.handle.number = some service ∧
        service.Failure entry.facade function cause := by
  obtain ⟨e, entry, service, arguments, answer, he, hentry, hs, hinvoke, htold⟩ :=
    invocation_of_guest h
  have failure : service.Failure entry.facade function cause := by
    cases answer with
    | ok raw =>
      obtain ⟨message, rfl⟩ := guest_of_readReply htold
      exact .reported message
    | error cause' =>
      cases cause' with
      | guest cause' =>
        cases htold
        exact Service.failure_of_invoke hinvoke
      | compile | controlImports | registration | unknownHandle | unknownModule => cases htold
  exact ⟨failure.function_eq, e, entry, service, he, hentry, hs, failure⟩

/-- A module whose function `e` traps. -/
def trapping : Bytes :=
  [0, 97, 115, 109, 1, 0, 0, 0, 1, 36, 6, 96, 1, 127, 1, 127, 96, 2, 127, 127, 0, 96, 4, 127,
    127, 127, 127, 1, 127, 96, 5, 127, 127, 127, 127, 127, 0, 96, 2, 127, 127, 1, 127, 96, 0, 0,
    3, 4, 3, 0, 1, 2, 5, 3, 1, 0, 1, 6, 8, 1, 127, 1, 65, 128, 192, 0, 11, 7, 38, 4, 6, 109, 101,
    109, 111, 114, 121, 2, 0, 8, 97, 108, 108, 111, 99, 97, 116, 101, 0, 0, 10, 100, 101, 97, 108,
    108, 111, 99, 97, 116, 101, 0, 1, 1, 101, 0, 2, 10, 20, 3, 11, 0, 35, 0, 35, 0, 32, 0, 106,
    36, 0, 11, 2, 0, 11, 3, 0, 0, 11, 0, 59, 15, 105, 110, 116, 101, 114, 102, 97, 99, 101, 45,
    116, 121, 112, 101, 115, 123, 34, 102, 117, 110, 99, 116, 105, 111, 110, 115, 34, 58, 91, 123,
    34, 110, 97, 109, 101, 34, 58, 34, 101, 34, 44, 34, 112, 97, 114, 97, 109, 115, 34, 58, 91,
    34, 97, 34, 93, 125, 93, 125]

/-- A registry with a service whose function `f` calls that function in a module before. -/
def relaying : Registry (Engine.controlRuntime {}) :=
  let started := (uninitialized.init [0, 97, 115, 109, 1, 0, 0, 0]).registry
  (started.createService ⟨"s", [⟨"m", .owned trapping, {}⟩, ⟨"n", .owned relay, {}⟩], none⟩
    .total).registry

/-- The guest error of a result. -/
def guestError? : Except HostError Value → Option GuestError
  | .error (.guest cause) => some cause
  | _ => none

theorem callService_blames_relaying : ∃ cause,
    (relaying.callService "s" "f" (.positional [.null]) {}).result = some (.error (.guest cause)) ∧
      cause.function = "f" ∧ cause = .fault "f" "function `e` failed to execute: <trap>" := by
  have told : (relaying.callService "s" "f" (.positional [.null]) {}).result.bind guestError? =
      some (.fault "f" "function `e` failed to execute: <trap>") := by
    decide +kernel
  obtain ⟨answer, fails, hanswer⟩ := Option.bind_eq_some_iff.1 told
  unfold guestError? at hanswer
  split at hanswer
  · cases hanswer
    exact ⟨_, fails, (callService_blames relaying _ _ _ _ _ fails).1, rfl⟩
  · cases hanswer

end Registry

end ModuleHost
