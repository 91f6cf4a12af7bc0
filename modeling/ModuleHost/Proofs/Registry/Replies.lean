import ModuleHost.Control.Scripted
import ModuleHost.Proofs.Json.Members
import ModuleHost.Proofs.Json.RoundTrip
import ModuleHost.Registry.Basic

/-!
# What a reply means

A runtime answers an invocation with a text. The members `error` and `result` of its object, the
last ones of these names, say whether the call succeeded and with which value.

* `Registry.Replied` — what a text means to the caller: a value, a failure that the guest reports,
  or one of three reasons why the text is no reply;
* `Registry.readReply_of_members` — the meaning of an object;
* `Registry.readReply_eq_iff` — every text has exactly that meaning;
* **`Registry.callService_replied`**: a call to which the runtime replies has it as its result, and
  no member of another name matters.
-/

namespace ModuleHost

open Json (members last?)

namespace Registry

/-- What a text means to the caller of `function` to whom it is the reply. -/
inductive Replied (function raw : String) : Except HostError Value → Prop
  /-- The last `error` is absent or empty; an absent `result` is null. -/
  | returned {ms : List (String × Json)} (object : members raw = .ok ms)
      (success : last? "error" ms = none ∨ last? "error" ms = some (.string "")) :
      Replied function raw (.ok (.ofJson ((last? "result" ms).getD .null)))
  /-- The last `error` is a text. -/
  | failed {ms : List (String × Json)} {message : String} (object : members raw = .ok ms)
      (error : last? "error" ms = some (.string message)) (nonempty : message ≠ "") :
      Replied function raw (.error (.guest (.failed function message)))
  /-- The last `error` is no text. -/
  | mistyped {ms : List (String × Json)} {j : Json} (object : members raw = .ok ms)
      (error : last? "error" ms = some j) (noText : ∀ s, j ≠ .string s) :
      Replied function raw (.error (.marshal (.parse "call result" .mismatch raw)))
  /-- The text is not JSON. -/
  | unreadable {cause : Json.ReadError} (invalid : Json.parse raw = .error cause) :
      Replied function raw (.error (.marshal (.parse "call result" cause raw)))
  /-- The text is JSON, but no object. -/
  | shapeless {j : Json} (valid : Json.parse raw = .ok j) (noObject : ∀ es, j ≠ .fields es) :
      Replied function raw (.error (.marshal (.shape "call result"
        "expected an object with `result` and `error` fields" raw)))

variable {function raw : String}

theorem readReply_of_members {ms : List (String × Json)} (h : members raw = .ok ms) :
    readReply function raw =
      match last? "error" ms with
      | none => .ok (.ofJson ((last? "result" ms).getD .null))
      | some (.string message) =>
        if message = "" then .ok (.ofJson ((last? "result" ms).getD .null))
        else .error (.guest (.failed function message))
      | some _ => .error (.marshal (.parse "call result" .mismatch raw)) := by
  have herror : (Json.object ms).get? "error" = last? "error" ms := Json.get?_ofList "error" ms
  have hresult : (Json.object ms).get? "result" = last? "result" ms := Json.get?_ofList "result" ms
  have hobject : (Json.object ms).isObject = true := rfl
  unfold readReply Envelope.decode
  rw [Json.parse_of_members h]
  simp only [hobject, if_true, Envelope.ofJson?, herror, hresult]
  cases last? "error" ms with
  | none => rfl
  | some j =>
    cases j with
    | null | bool | number | array | fields => rfl
    | string message =>
      by_cases hempty : message = ""
      · subst hempty
        rfl
      · simp [Envelope.outcome, hempty]

theorem replied_readReply (function raw : String) :
    Replied function raw (readReply function raw) := by
  cases hparse : Json.parse raw with
  | error cause =>
    have hreply : readReply function raw = .error (.marshal (.parse "call result" cause raw)) := by
      rw [readReply, Envelope.decode, hparse]
      rfl
    exact hreply ▸ .unreadable hparse
  | ok j =>
    by_cases hobject : ∃ es, j = .fields es
    · obtain ⟨es, rfl⟩ := hobject
      obtain ⟨ms, hms, -⟩ := Json.parse_eq_fields.1 hparse
      rw [readReply_of_members hms]
      cases herror : last? "error" ms with
      | none => exact .returned hms (.inl herror)
      | some j =>
        cases j with
        | string message =>
          dsimp only
          split
          · next hempty => exact .returned hms (.inr (hempty ▸ herror))
          · next hnonempty => exact .failed hms herror hnonempty
        | null | bool | number | array | fields => exact .mistyped hms herror nofun
    · have noObject : ∀ es, j ≠ .fields es := fun es h => hobject ⟨es, h⟩
      have hkind : j.isObject = false := by
        cases j with
        | fields es => exact absurd rfl (noObject es)
        | null | bool | number | string | array => rfl
      have hreply : readReply function raw = .error (.marshal (.shape "call result"
          "expected an object with `result` and `error` fields" raw)) := by
        rw [readReply, Envelope.decode, hparse]
        simp only [hkind, Bool.false_eq_true, if_false]
        rfl
      exact hreply ▸ .shapeless hparse noObject

theorem readReply_of_replied {answer : Except HostError Value} (h : Replied function raw answer) :
    readReply function raw = answer := by
  cases h with
  | returned object success =>
    rw [readReply_of_members object]
    rcases success with h | h
    · rw [h]
    · rw [h]
      exact if_pos rfl
  | failed object error nonempty =>
    rw [readReply_of_members object, error]
    exact if_neg nonempty
  | @mistyped ms j object error noText =>
    rw [readReply_of_members object, error]
    cases j with
    | string message => exact absurd rfl (noText message)
    | null | bool | number | array | fields => rfl
  | unreadable invalid =>
    rw [readReply, Envelope.decode, invalid]
    rfl
  | @shapeless j valid noObject =>
    rw [readReply, Envelope.decode, valid]
    cases j with
    | fields es => exact absurd rfl (noObject es)
    | null | bool | number | string | array => rfl

theorem readReply_eq_iff {answer : Except HostError Value} :
    readReply function raw = answer ↔ Replied function raw answer :=
  ⟨fun h => h ▸ replied_readReply function raw, readReply_of_replied⟩

/-- Objects with the same last `error` and `result` mean the same, but for the text that is quoted
where they are no reply. -/
theorem Replied.congr {raw' : String} {ms ms' : List (String × Json)}
    (object : members raw = .ok ms) (object' : members raw' = .ok ms')
    (error : last? "error" ms = last? "error" ms')
    (result : last? "result" ms = last? "result" ms') {answer : Except HostError Value}
    (reply : ∀ e, answer ≠ .error (.marshal e)) :
    Replied function raw answer ↔ Replied function raw' answer := by
  rw [← readReply_eq_iff, ← readReply_eq_iff, readReply_of_members object,
    readReply_of_members object', error, result]
  cases last? "error" ms' with
  | none => rfl
  | some j =>
    cases j with
    | string message => rfl
    | null | bool | number | array | fields =>
      exact ⟨fun h => absurd h.symm (reply _), fun h => absurd h.symm (reply _)⟩

/-- **What a caller is told of a reply.** A call of a registered service with arguments that have
JSON has as its result the meaning of the text with which the runtime replies, and nothing else.
Only the last `error` and the last `result` of the text matter. -/
theorem callService_replied {R : ControlRuntime} {r : Registry R} {runtime : R.State}
    {id function : String} {args : CallArgs} {parameters : CallParameters} {entry : ServiceEntry}
    {arguments raw : String} (ready : r.ready = .ok runtime)
    (registered : r.services.get? id = some entry) (encoded : args.encode = .ok arguments)
    (replies : (R.invoke runtime entry.handle entry.facade function arguments parameters).result =
      some (.ok raw)) :
    (∀ answer, (r.callService id function args parameters).result = some answer ↔
      Replied function raw answer) ∧
    ∀ raw' ms ms', members raw = .ok ms → members raw' = .ok ms' →
      last? "error" ms = last? "error" ms' → last? "result" ms = last? "result" ms' →
        ∀ answer, (∀ e, answer ≠ .error (.marshal e)) →
          ((r.callService id function args parameters).result = some answer ↔
            Replied function raw' answer) := by
  have hcall : (r.callService id function args parameters).result =
      some (readReply function raw) := by
    rw [callService, ready]
    dsimp only
    rw [registered, encoded]
    dsimp only [invoke]
    rw [replies]
    rfl
  have hreplied : ∀ answer, (r.callService id function args parameters).result = some answer ↔
      Replied function raw answer := by
    intro answer
    rw [hcall, Option.some.injEq, readReply_eq_iff]
  refine ⟨hreplied, fun raw' ms ms' object object' error result answer reply => ?_⟩
  rw [hreplied, Replied.congr object object' error result reply]

/-- A reply with repeated and further members. -/
def repeatingReply : String :=
  (Json.fields [("result", .nat 1), ("error", .string "boom"), ("more", .array []),
    ("error", .string ""), ("result", .string "v")]).compact

/-- A script whose function replies so. -/
def repeatingScript : Script := Dict.ofList [("f", ⟨none, .raw repeatingReply⟩)]

/-- An initialized registry over that script. -/
def scripted : Registry (ScriptedRuntime.control repeatingScript) :=
  { phase := .initialized, runtime := some ({} : ScriptedRuntime) }

/-- The registry with a service. -/
def repeating : Registry (ScriptedRuntime.control repeatingScript) :=
  (scripted.createService ⟨"s", [⟨"m", .owned [0], {}⟩], none⟩ .total).registry

/-- The last members count. -/
theorem callService_replied_repeating :
    repeating.services.get? "s" = some ⟨⟨1⟩, "m"⟩ ∧
      (repeating.callService "s" "f" (.positional []) {}).result = some (.ok (.string "v")) := by
  have hnumbers : (Json.fields [("result", .nat 1), ("error", .string "boom"),
      ("more", .array []), ("error", .string ""), ("result", .string "v")]).Integral := by
    simp [Json.Integral, Json.IntegralEntries, Json.IntegralItems, Json.nat]
  have hparse := Json.parse_compact hnumbers
  have hreply : readReply "f" repeatingReply = .ok (.string "v") := by
    unfold readReply Envelope.decode repeatingReply
    rw [hparse]
    rfl
  have hready : repeating.ready = .ok (⟨1, Dict.ofList [(1, "s", .total)]⟩ : ScriptedRuntime) := rfl
  have hentry : repeating.services.get? "s" = some ⟨⟨1⟩, "m"⟩ := by decide +kernel
  have hencode : CallArgs.encode (.positional []) = .ok "[]" := by decide +kernel
  exact ⟨hentry, ((callService_replied hready hentry hencode rfl).1 _).2
    (readReply_eq_iff.1 hreply)⟩

end Registry

end ModuleHost
