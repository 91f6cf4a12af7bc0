import Mathlib.Data.List.Find
import ModuleHost.Proofs.Engine.Arguments
import ModuleHost.Proofs.Engine.Interchange
import ModuleHost.Proofs.Json.Members
import ModuleHost.Proofs.Json.RoundTrip

/-!
# Arguments that are refused

A function takes the text of an array of as many items as it has parameters, or of an object with a
member for each of them. It refuses every other text, and says why.

* `firstLacking?` — the first of the parameters, in order, that is no key;
* `FunctionSignature.Rejects` — the reasons to refuse a text;
* `membersInOrder_eq_error` — members are refused for the first parameter that they lack;
* `FunctionSignature.arguments_eq_error_iff` — a text is refused for these reasons only;
* **`FunctionSignature.refuses`**: which texts are refused and for what, and which members do not
  matter.
-/

namespace ModuleHost

open Json (members)

/-- The first parameter, in order, that is none of the keys. -/
def firstLacking? (params keys : List String) : Option String := params.find? (· ∉ keys)

/-- The reason to refuse members that lack a parameter. -/
def missingReason (param : String) : String := s!"missing argument `{param}`"

theorem missingReason_eq (param : String) :
    missingReason param = "missing argument `" ++ param ++ "`" := rfl

theorem head_missingReason (param : String) : (missingReason param).toList.head? = some 'm' := by
  rw [missingReason_eq, String.toList_append, String.toList_append]
  simp

theorem missingReason_inj {param param' : String} (h : missingReason param = missingReason param') :
    param = param' := by
  have hchars := congrArg String.toList h
  simp only [missingReason_eq, String.toList_append] at hchars
  exact String.toList_inj.1 (List.append_cancel_left (List.append_cancel_right hchars))

namespace FunctionSignature

/-- The reasons for which a function refuses a text. -/
inductive Rejects (f : FunctionSignature) (raw : String) : String → Prop
  /-- The text is not JSON. -/
  | unreadable {cause : Json.ReadError} (invalid : Json.parse raw = .error cause) :
      Rejects f raw s!"arguments are not valid JSON: {cause.plainTag}"
  /-- The text is JSON, but neither an array nor an object. -/
  | shapeless {j : Json} (valid : Json.parse raw = .ok j) (noArray : ∀ items, j ≠ .array items)
      (noObject : ∀ es, j ≠ .fields es) : Rejects f raw "arguments must be an array or an object"
  /-- The array has more or fewer items than there are parameters. -/
  | miscounted {items : List Json} (array : Json.parse raw = .ok (.array items))
      (count : items.length ≠ f.params.length) :
      Rejects f raw s!"expected {f.params.length} arguments, got {items.length}"
  /-- The object lacks a parameter. -/
  | missing {ms : List (String × Json)} {param : String} (object : members raw = .ok ms)
      (lacking : firstLacking? f.params (ms.map (·.1)) = some param) :
      Rejects f raw (missingReason param)

end FunctionSignature

/-! ## Members -/

theorem membersInOrder_eq_error {params : List String} {reason : String} :
    ∀ {entries : List (String × Json)}, params.Nodup →
      (membersInOrder entries params = .error reason ↔
        ∃ param, params.find? (fun q => (Fields.get? q entries).isNone) = some param ∧
          reason = missingReason param) := by
  induction params with
  | nil =>
    intro entries _
    constructor
    · intro h
      cases h
    · rintro ⟨param, hfind, -⟩
      cases hfind
  | cons param params ih =>
    intro entries distinct
    obtain ⟨hnot, distinct⟩ := List.nodup_cons.1 distinct
    rw [membersInOrder]
    cases hget : Fields.get? param entries with
    | none =>
      rw [List.find?_cons_of_pos (by simp [hget])]
      constructor
      · intro h
        cases h
        exact ⟨param, rfl, rfl⟩
      · rintro ⟨_, hparam, rfl⟩
        cases hparam
        rfl
    | some j =>
      rw [List.find?_cons_of_neg (by simp [hget])]
      -- the member that is taken is none of those that are looked for later
      have hlater : params.find? (fun q => (Fields.get? q (Fields.erase param entries)).isNone) =
          params.find? (fun q => (Fields.get? q entries).isNone) := by
        refine List.find?_congr fun q hq => ?_
        have hne : q ≠ param := fun heq => hnot (heq ▸ hq)
        rw [Fields.get?_erase, if_neg hne]
      rw [← hlater, ← ih distinct]
      cases membersInOrder (Fields.erase param entries) params with
      | error e => exact Iff.rfl
      | ok js => exact iff_of_false (fun h => by cases h) (by simp)

theorem find?_isNone_ofList (params : List String) (ms : List (String × Json)) :
    params.find? (fun q => (Fields.get? q (Fields.ofList ms)).isNone) =
      firstLacking? params (ms.map (·.1)) := by
  refine List.find?_congr fun q _ => ?_
  rw [Json.get?_ofList, Bool.eq_iff_iff, Option.isNone_iff_eq_none, Json.last?_eq_none]
  simp

theorem firstLacking?_congr {params keys keys' : List String}
    (h : ∀ q ∈ params, q ∈ keys ↔ q ∈ keys') :
    firstLacking? params keys = firstLacking? params keys' := by
  refine List.find?_congr fun q hq => ?_
  simp [h q hq]

namespace FunctionSignature

variable {f : FunctionSignature} {raw : String}

theorem orderArguments_eq_error_iff (distinct : f.params.Nodup) {j : Json}
    (valid : Json.parse raw = .ok j) {reason : String} :
    orderArguments f.params j = .error reason ↔ f.Rejects raw reason := by
  constructor
  · intro h
    cases j with
    | array items =>
      rw [orderArguments] at h
      split_ifs at h with hcount
      cases h
      exact .miscounted valid hcount
    | fields entries =>
      obtain ⟨ms, hms, rfl⟩ := Json.parse_eq_fields.1 valid
      rw [orderArguments, membersInOrder_eq_error distinct, find?_isNone_ofList] at h
      obtain ⟨param, hlacking, rfl⟩ := h
      exact .missing hms hlacking
    | null | bool | number | string =>
      cases h
      exact .shapeless valid (by simp) (by simp)
  · intro h
    cases h with
    | unreadable invalid => cases valid.symm.trans invalid
    | shapeless valid' noArray noObject =>
      cases valid.symm.trans valid'
      cases j with
      | array items => exact absurd rfl (noArray items)
      | fields entries => exact absurd rfl (noObject entries)
      | null | bool | number | string => rfl
    | miscounted array count =>
      cases valid.symm.trans array
      exact if_neg count
    | missing object lacking =>
      cases valid.symm.trans (Json.parse_of_members object)
      rw [Json.object, orderArguments, membersInOrder_eq_error distinct, find?_isNone_ofList]
      exact ⟨_, lacking, rfl⟩

theorem arguments_eq_error_iff (distinct : f.params.Nodup) {e : GuestError} :
    f.arguments raw = .error e ↔
      ∃ reason, e = .argumentMismatch f.name reason ∧ f.Rejects raw reason := by
  rw [arguments]
  cases hparse : Json.parse raw with
  | error cause =>
    constructor
    · intro h
      cases h
      exact ⟨_, rfl, .unreadable hparse⟩
    · rintro ⟨reason, rfl, hreason⟩
      cases hreason with
      | unreadable invalid =>
        cases hparse.symm.trans invalid
        rfl
      | shapeless valid | miscounted valid => cases hparse.symm.trans valid
      | missing object => cases hparse.symm.trans (Json.parse_of_members object)
  | ok j =>
    simp only [← orderArguments_eq_error_iff distinct hparse]
    cases orderArguments f.params j with
    | error reason => simp [eq_comm]
    | ok items => simp

/-- No other reason reads like that a parameter is lacking. -/
theorem rejects_missing_iff {param : String} :
    f.Rejects raw (missingReason param) ↔
      ∃ ms, members raw = .ok ms ∧ firstLacking? f.params (ms.map (·.1)) = some param := by
  constructor
  · intro h
    generalize hreason : missingReason param = reason at h
    have hfirst : reason.toList.head? = some 'm' := hreason ▸ head_missingReason param
    cases h with
    | unreadable =>
      simp [toString, String.toList_append] at hfirst
    | shapeless =>
      simp at hfirst
    | @miscounted items =>
      change ("expected " ++ toString f.params.length ++ " arguments, got " ++
        toString items.length).toList.head? = _ at hfirst
      simp [String.toList_append] at hfirst
    | missing object lacking => exact ⟨_, object, missingReason_inj hreason ▸ lacking⟩
  · rintro ⟨ms, object, lacking⟩
    exact .missing object lacking

theorem exists_rejects_iff :
    (∃ reason, f.Rejects raw reason) ↔
      (∃ cause, Json.parse raw = .error cause) ∨
      (∃ j, Json.parse raw = .ok j ∧ (∀ items, j ≠ .array items) ∧ ∀ es, j ≠ .fields es) ∨
      (∃ items, Json.parse raw = .ok (.array items) ∧ items.length ≠ f.params.length) ∨
      ∃ ms, members raw = .ok ms ∧ ∃ param ∈ f.params, param ∉ ms.map (·.1) := by
  constructor
  · rintro ⟨reason, h⟩
    cases h with
    | unreadable invalid => exact .inl ⟨_, invalid⟩
    | shapeless valid noArray noObject => exact .inr (.inl ⟨_, valid, noArray, noObject⟩)
    | miscounted array count => exact .inr (.inr (.inl ⟨_, array, count⟩))
    | missing object lacking =>
      exact .inr (.inr (.inr ⟨_, object, _, List.mem_of_find?_eq_some lacking,
        by simpa using List.find?_some lacking⟩))
  · rintro (⟨cause, invalid⟩ | ⟨j, valid, noArray, noObject⟩ | ⟨items, array, count⟩ |
      ⟨ms, object, param, hparam, hnot⟩)
    · exact ⟨_, .unreadable invalid⟩
    · exact ⟨_, .shapeless valid noArray noObject⟩
    · exact ⟨_, .miscounted array count⟩
    · obtain ⟨first, hfirst⟩ : ∃ first, firstLacking? f.params (ms.map (·.1)) = some first := by
        rw [← Option.isSome_iff_exists, firstLacking?, List.find?_isSome]
        exact ⟨param, hparam, by simpa using hnot⟩
      exact ⟨_, .missing object hfirst⟩

/-- Objects with the same keys among the parameters are refused for the same. -/
theorem Rejects.congr {raw' : String} {ms ms' : List (String × Json)}
    (object : members raw = .ok ms) (object' : members raw' = .ok ms')
    (keys : ∀ q ∈ f.params, q ∈ ms.map (·.1) ↔ q ∈ ms'.map (·.1)) {reason : String}
    (h : f.Rejects raw reason) : f.Rejects raw' reason := by
  have hparse := Json.parse_of_members object
  cases h with
  | unreadable invalid => cases hparse.symm.trans invalid
  | shapeless valid noArray noObject =>
    cases hparse.symm.trans valid
    exact absurd rfl (noObject _)
  | miscounted array => cases hparse.symm.trans array
  | missing object₁ lacking =>
    cases object.symm.trans object₁
    exact .missing object' (firstLacking?_congr keys ▸ lacking)

/-- **Which arguments are refused.** For a function of an interface that is read and every text:

* it is refused if it is not JSON, neither an array nor an object, an array of another length or an
  object that lacks a parameter, and only then;
* every refusal names the function, and its reason is that of the text;
* a parameter is reported as missing only if it is the first, in order, without a member; one with a
  member, whatever its value, never is;
* the order of the members and those that are no parameter do not matter. -/
theorem refuses {text : Text} {i : Interface} (read : Interface.parse text = .ok i)
    (declared : f ∈ i.functions) (raw : String) :
    ((∃ e, f.arguments raw = .error e) ↔
      (∃ cause, Json.parse raw = .error cause) ∨
      (∃ j, Json.parse raw = .ok j ∧ (∀ items, j ≠ .array items) ∧ ∀ es, j ≠ .fields es) ∨
      (∃ items, Json.parse raw = .ok (.array items) ∧ items.length ≠ f.params.length) ∨
      ∃ ms, members raw = .ok ms ∧ ∃ param ∈ f.params, param ∉ ms.map (·.1)) ∧
    (∀ e, f.arguments raw = .error e ↔
      ∃ reason, e = .argumentMismatch f.name reason ∧ f.Rejects raw reason) ∧
    (∀ param, f.arguments raw = .error (.argumentMismatch f.name (missingReason param)) ↔
      ∃ ms, members raw = .ok ms ∧ firstLacking? f.params (ms.map (·.1)) = some param) ∧
    (∀ ms param, members raw = .ok ms → param ∈ ms.map (·.1) →
      f.arguments raw ≠ .error (.argumentMismatch f.name (missingReason param))) ∧
    ∀ raw' ms ms', members raw = .ok ms → members raw' = .ok ms' →
      (∀ q ∈ f.params, q ∈ ms.map (·.1) ↔ q ∈ ms'.map (·.1)) →
        ∀ e, f.arguments raw = .error e ↔ f.arguments raw' = .error e := by
  have distinct := Interface.nodup_params read f declared
  have hmissing : ∀ param,
      f.arguments raw = .error (.argumentMismatch f.name (missingReason param)) ↔
        ∃ ms, members raw = .ok ms ∧ firstLacking? f.params (ms.map (·.1)) = some param := by
    intro param
    rw [arguments_eq_error_iff distinct, ← rejects_missing_iff]
    simp
  refine ⟨?_, fun e => arguments_eq_error_iff distinct, hmissing, ?_, ?_⟩
  · rw [← exists_rejects_iff]
    simp only [arguments_eq_error_iff distinct]
    constructor
    · rintro ⟨e, reason, -, h⟩
      exact ⟨reason, h⟩
    · rintro ⟨reason, h⟩
      exact ⟨_, reason, rfl, h⟩
  · intro ms param object present herror
    obtain ⟨ms', object', lacking⟩ := (hmissing param).1 herror
    cases object.symm.trans object'
    have habsent : param ∉ ms.map (·.1) := by simpa using List.find?_some lacking
    exact habsent present
  · intro raw' ms ms' object object' keys e
    have hcongr : ∀ reason, f.Rejects raw reason ↔ f.Rejects raw' reason := fun reason =>
      ⟨.congr object object' keys, .congr object' object fun q hq => (keys q hq).symm⟩
    simp only [arguments_eq_error_iff distinct, hcongr]

/-- Of two parameters that are lacking, the first that is declared is reported. -/
theorem refuses_twoParameters :
    let f : FunctionSignature := ⟨"f", ["y", "x"]⟩
    Interface.parse Registry.twoParameters = .ok ⟨[f]⟩ ∧
      f.arguments (Json.fields [("w", .null)]).compact =
        .error (.argumentMismatch "f" (missingReason "y")) := by
  intro f
  have hparse : Interface.parse Registry.twoParameters = .ok ⟨[f]⟩ := by decide +kernel
  have hnumbers : (Json.fields [("w", .null)]).Integral := ⟨trivial, trivial⟩
  obtain ⟨ms, object, hfields⟩ := Json.parse_eq_fields.1 (Json.parse_compact hnumbers)
  have hlacking : firstLacking? f.params (ms.map (·.1)) = some "y" := by
    rw [← find?_isNone_ofList, ← hfields]
    rfl
  exact ⟨hparse, ((refuses hparse (by simp) _).2.2.1 "y").2 ⟨ms, object, hlacking⟩⟩

end FunctionSignature

end ModuleHost
