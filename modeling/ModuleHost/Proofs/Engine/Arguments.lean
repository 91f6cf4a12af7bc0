import Mathlib.Data.List.Forall2
import ModuleHost.Engine.Invocation
import ModuleHost.Proofs.Call.Encoding
import ModuleHost.Proofs.Interface.Metadata

/-!
# Arguments in order

* `Interface.nodup_params` — the parameters of a function of an interface that is read are distinct;
* `FunctionSignature.Names` — named arguments that give the parameters of a function their values;
* **`FunctionSignature.arguments_named`**: named arguments come to the text of the positional ones.
-/

namespace ModuleHost

open Json.Reader (maxDepth)

/-! ## Distinct parameters -/

namespace Interface

theorem nodup_params {raw : Text} {i : Interface} (h : parse raw = .ok i) :
    ∀ f ∈ i.functions, f.params.Nodup := (distinct_of_parse h).params

theorem parse_of_ofModule {bytes : Bytes} {i : Interface} (h : ofModule bytes = .ok i) :
    ∃ raw, parse raw = .ok i := by
  unfold ofModule at h
  split at h
  · cases h
  · split at h
    · cases h
    · exact ⟨_, h⟩

end Interface

/-! ## Members in order -/

theorem membersInOrder_eq {params : List String} {js : List Json} :
    ∀ {entries : List (String × Json)}, params.Nodup →
      List.Forall₂ (fun param j => Fields.get? param entries = some j) params js →
        membersInOrder entries params = .ok js := by
  induction params generalizing js with
  | nil =>
    intro entries _ h
    cases h
    rfl
  | cons param params ih =>
    intro entries hnodup h
    cases h with
    | @cons _ j _ js hj hjs =>
      obtain ⟨hnot, hnodup⟩ := List.nodup_cons.1 hnodup
      -- the member that was taken is none of the others
      have hrest : List.Forall₂
          (fun q j => Fields.get? q (Fields.erase param entries) = some j) params js := by
        have hne : ∀ q ∈ params, q ≠ param := fun q hq heq => hnot (heq ▸ hq)
        refine (List.forall₂_and_left params js).2 ⟨hne, hjs⟩ |>.imp fun q j hq => ?_
        rw [Fields.get?_erase, if_neg hq.1, hq.2]
      rw [membersInOrder, hj, ih hnodup hrest]
      rfl

namespace FunctionSignature

/-- Named arguments give the parameters of a function the values, in order; they may hold more. -/
def Names (f : FunctionSignature) (values : List Value) (named : Dict String Value) : Prop :=
  List.Forall₂ (fun param v => named.get? param = some v) f.params values

variable {f : FunctionSignature} {values : List Value} {named : Dict String Value}

/-- The values have the JSON of the members that the parameters name. -/
theorem Names.encodes (h : f.Names values named) {d : Nat} {fs : List (String × Json)}
    (hfs : List.Forall₂ (Value.EncodesEntry d) named.fields fs) :
    ∃ js, List.Forall₂ (fun param j => Fields.get? param fs = some j) f.params js ∧
      List.Forall₂ (Value.Encodes d) values js := by
  rw [Names] at h
  generalize f.params = params at h ⊢
  induction h with
  | nil => exact ⟨[], .nil, .nil⟩
  | cons hv _ ih =>
    obtain ⟨j, hget, hj⟩ := Value.get?_of_encodes hfs hv
    obtain ⟨js, hgets, hjs⟩ := ih
    exact ⟨j :: js, .cons hget hgets, .cons hj hjs⟩

theorem arguments_positional {js : List Json} (hcount : js.length = f.params.length)
    (hparse : Json.parse (Json.array js).compact = .ok (.array js)) :
    f.arguments (Json.array js).compact = .ok (Json.array js).compact := by
  rw [arguments, hparse]
  simp only [orderArguments, if_pos hcount]

/-- **Named arguments come to the text of the positional ones**, if they give the parameters the
same values. -/
theorem arguments_named (distinct : f.params.Nodup) (names : f.Names values named)
    (fits : (CallArgs.named named).toValue.Fits maxDepth) :
    ∃ text text', (CallArgs.positional values).encode = .ok text ∧
      (CallArgs.named named).encode = .ok text' ∧
      f.arguments text = .ok text ∧ f.arguments text' = .ok text := by
  have hdepth : maxDepth = (maxDepth - 1) + 1 := rfl
  obtain ⟨-, -, hentries⟩ : 0 < maxDepth ∧ Fields.Sorted named.fields ∧
      Value.FitsEntries (maxDepth - 1) named.fields := fits
  rw [Value.fitsEntries_iff] at hentries
  obtain ⟨fs, hfs⟩ := Value.exists_encodesEntry fun e he => (hentries e he).encodes
  obtain ⟨js, hgets, hjs⟩ := names.encodes hfs
  have hnamed : (CallArgs.named named).toValue.Encodes maxDepth (.fields fs) :=
    hdepth ▸ Value.encodes_fields named.sorted hfs
  have hpositional : (CallArgs.positional values).toValue.Encodes maxDepth (.array js) :=
    hdepth ▸ Value.encodes_array hjs
  refine ⟨_, _, CallArgs.encode_eq hpositional, CallArgs.encode_eq hnamed,
    arguments_positional hgets.length_eq.symm hpositional.parse, ?_⟩
  rw [arguments, hnamed.parse]
  simp only [orderArguments, membersInOrder_eq distinct hgets]

theorem arguments_congr (distinct : f.params.Nodup) (names : f.Names values named)
    (fits : (CallArgs.named named).toValue.Fits maxDepth) {text text' : String}
    (h : (CallArgs.positional values).encode = .ok text)
    (h' : (CallArgs.named named).encode = .ok text') : f.arguments text = f.arguments text' := by
  obtain ⟨t, t', ht, ht', harguments, harguments'⟩ := arguments_named distinct names fits
  cases h.symm.trans ht
  cases h'.symm.trans ht'
  rw [harguments, harguments']

end FunctionSignature

end ModuleHost
