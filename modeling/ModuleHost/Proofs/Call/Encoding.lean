import ModuleHost.Call.Args
import ModuleHost.Proofs.Json.Parsed
import ModuleHost.Proofs.Json.RoundTrip

/-!
# Values as JSON

* `Value.induct` — induction over a value, its items and the values of its fields;
* `Value.Fits` — a value of integers that opens no more than so many brackets at one point;
* `Value.Encodes` — the JSON of a value, wherever it stands;
* **`Value.Fits.encodes`**: a value that fits has one, which fits too;
* `CallArgs.encode_eq`, `Value.Encodes.parse` — the text of arguments, and what it is read as.
-/

namespace ModuleHost

open Json.Reader (maxDepth)

namespace Value

/-- Induction over a value: what its items or the values of its fields have, it has. -/
@[induction_eliminator]
theorem induct {motive : Value → Prop} (null : motive .null) (bool : ∀ b, motive (.bool b))
    (int : ∀ n, motive (.int n)) (uint : ∀ n, motive (.uint n)) (float : ∀ x, motive (.float x))
    (string : ∀ s, motive (.string s))
    (array : ∀ items, (∀ v ∈ items, motive v) → motive (.array items))
    (fields : ∀ entries, (∀ e ∈ entries, motive e.2) → motive (.fields entries)) :
    (v : Value) → motive v
  | .null => null
  | .bool b => bool b
  | .int n => int n
  | .uint n => uint n
  | .float x => float x
  | .string s => string s
  | .array items =>
    array items fun v _ => induct null bool int uint float string array fields v
  | .fields entries =>
    fields entries fun e _ => induct null bool int uint float string array fields e.2
decreasing_by
  · have := List.sizeOf_lt_of_mem ‹_ ∈ items›
    simp only [Value.array.sizeOf_spec]
    omega
  · have := List.sizeOf_lt_of_mem ‹_ ∈ entries›
    obtain ⟨k, v⟩ := e
    simp only [Value.fields.sizeOf_spec, Prod.mk.sizeOf_spec] at this ⊢
    omega

mutual

/-- Every number in the value is an integer, every object lists its keys in increasing order, and at
most `d` brackets are open at one point. -/
def Fits (d : Nat) : Value → Prop
  | .float _ => False
  | .array items => 0 < d ∧ FitsItems (d - 1) items
  | .fields entries => 0 < d ∧ Fields.Sorted entries ∧ FitsEntries (d - 1) entries
  | _ => True

/-- Every one of the values fits. -/
def FitsItems (d : Nat) : List Value → Prop
  | [] => True
  | v :: vs => Fits d v ∧ FitsItems d vs

/-- The value of every entry fits. -/
def FitsEntries (d : Nat) : List (String × Value) → Prop
  | [] => True
  | (_, v) :: es => Fits d v ∧ FitsEntries d es

end

theorem fitsItems_iff {d : Nat} {items : List Value} :
    FitsItems d items ↔ ∀ v ∈ items, v.Fits d := by
  induction items with
  | nil => simp [FitsItems]
  | cons v vs ih => simp [FitsItems, ih]

theorem fitsEntries_iff {d : Nat} {entries : List (String × Value)} :
    FitsEntries d entries ↔ ∀ e ∈ entries, e.2.Fits d := by
  induction entries with
  | nil => simp [FitsEntries]
  | cons e es ih => simp [FitsEntries, ih]

/-- The JSON of a value, wherever it stands: one of integers that fits. -/
structure Encodes (d : Nat) (v : Value) (j : Json) : Prop where
  toJsonAt : ∀ path, v.toJsonAt path = .ok j
  integral : j.Integral
  fits : Json.Reader.Fits d j

/-- A key with the JSON of a value. -/
def EncodesEntry (d : Nat) (e : String × Value) (f : String × Json) : Prop :=
  e.1 = f.1 ∧ e.2.Encodes d f.2

theorem itemsToJson_eq {d : Nat} {vs : List Value} {js : List Json}
    (h : List.Forall₂ (Encodes d) vs js) (path : String) (i : Nat) :
    itemsToJson path i vs = .ok js := by
  induction h generalizing i with
  | nil => rfl
  | cons hv _ ih =>
    rw [itemsToJson, hv.toJsonAt, ih]
    rfl

theorem entriesToJson_eq {d : Nat} {es : List (String × Value)} {fs : List (String × Json)}
    (h : List.Forall₂ (EncodesEntry d) es fs) (path : String) : entriesToJson path es = .ok fs := by
  induction h with
  | nil => rfl
  | @cons e f es fs he _ ih =>
    obtain ⟨k, v⟩ := e
    obtain ⟨k', j⟩ := f
    obtain ⟨rfl, hv⟩ := he
    rw [entriesToJson, hv.toJsonAt, ih]
    rfl

theorem encodes_array {d : Nat} {vs : List Value} {js : List Json}
    (h : List.Forall₂ (Encodes d) vs js) : Encodes (d + 1) (.array vs) (.array js) where
  toJsonAt path := by
    rw [toJsonAt, itemsToJson_eq h]
    rfl
  integral := by
    rw [Json.Integral, Json.integralItems_iff]
    intro j hj
    obtain ⟨v, -, hv⟩ := exists_mem_of_forall₂ h j hj
    exact hv.integral
  fits := Json.Reader.fits_array fun j hj => by
    obtain ⟨v, -, hv⟩ := exists_mem_of_forall₂ h j hj
    exact hv.fits

theorem keys_eq {d : Nat} {es : List (String × Value)} {fs : List (String × Json)}
    (h : List.Forall₂ (EncodesEntry d) es fs) : es.map (·.1) = fs.map (·.1) := by
  induction h with
  | nil => rfl
  | cons he _ ih => rw [List.map_cons, List.map_cons, he.1, ih]

theorem encodes_fields {d : Nat} {es : List (String × Value)} {fs : List (String × Json)}
    (sorted : Fields.Sorted es) (h : List.Forall₂ (EncodesEntry d) es fs) :
    Encodes (d + 1) (.fields es) (.fields fs) where
  toJsonAt path := by
    rw [toJsonAt, entriesToJson_eq h]
    rfl
  integral := by
    rw [Json.Integral, Json.integralEntries_iff]
    intro f hf
    obtain ⟨e, -, he⟩ := exists_mem_of_forall₂ h f hf
    exact he.2.integral
  fits := by
    have hsorted : Fields.Sorted fs := by
      have hkeys : (es.map (·.1)).Pairwise (compare · · = .lt) := List.pairwise_map.2 sorted
      rw [keys_eq h] at hkeys
      exact List.pairwise_map.1 hkeys
    have hfits : Json.Reader.Fits (d + 1) (Json.object fs) := Json.Reader.fits_object fun f hf => by
      obtain ⟨e, -, he⟩ := exists_mem_of_forall₂ h f hf
      exact he.2.fits
    rwa [Json.object, hsorted.ofList_eq] at hfits

theorem get?_of_encodes {d : Nat} {es : List (String × Value)} {fs : List (String × Json)}
    (h : List.Forall₂ (EncodesEntry d) es fs) {k : String} {v : Value}
    (hv : Fields.get? k es = some v) : ∃ j, Fields.get? k fs = some j ∧ v.Encodes d j := by
  induction h with
  | nil => cases hv
  | @cons e f es fs he _ ih =>
    obtain ⟨k', v'⟩ := e
    obtain ⟨k'', j⟩ := f
    obtain ⟨rfl, hj⟩ := he
    rw [Fields.get?] at hv ⊢
    split at hv
    · next hk =>
      cases hv
      exact ⟨j, if_pos hk, hj⟩
    · next hk =>
      obtain ⟨j', hget, hj'⟩ := ih hv
      exact ⟨j', by rw [if_neg hk, hget], hj'⟩

theorem exists_encodesEntry {d : Nat} {es : List (String × Value)}
    (h : ∀ e ∈ es, ∃ j, e.2.Encodes d j) : ∃ fs, List.Forall₂ (EncodesEntry d) es fs :=
  exists_forall₂ fun e he =>
    let ⟨j, hj⟩ := h e he
    ⟨(e.1, j), rfl, hj⟩

theorem encodes_int (d : Nat) (n : Int64) : Encodes d (.int n) (.int n) := by
  refine ⟨fun _ => rfl, ?_, trivial, Nat.zero_le _⟩
  rw [Json.int, Json.Number.ofInt64]
  split <;> trivial

/-- **A value that fits has a JSON form that fits.** -/
theorem Fits.encodes {v : Value} : ∀ {d : Nat}, v.Fits d → ∃ j, v.Encodes d j := by
  induction v with
  | null => exact fun _ => ⟨.null, fun _ => rfl, trivial, trivial, Nat.zero_le _⟩
  | bool b => exact fun _ => ⟨.bool b, fun _ => rfl, trivial, trivial, Nat.zero_le _⟩
  | int n => exact fun _ => ⟨.int n, encodes_int _ n⟩
  | uint n => exact fun _ => ⟨.nat n, fun _ => rfl, trivial, trivial, Nat.zero_le _⟩
  | float x => exact fun h => nomatch h
  | string s => exact fun _ => ⟨.string s, fun _ => rfl, trivial, trivial, Nat.zero_le _⟩
  | array items ih =>
    intro d h
    rw [Fits, fitsItems_iff] at h
    obtain ⟨hd, hitems⟩ := h
    obtain ⟨js, hjs⟩ := exists_forall₂ fun v hv => ih v hv (hitems v hv)
    obtain ⟨d, rfl⟩ := Nat.exists_eq_add_one_of_ne_zero (Nat.ne_of_gt hd)
    exact ⟨.array js, encodes_array hjs⟩
  | fields entries ih =>
    intro d h
    rw [Fits, fitsEntries_iff] at h
    obtain ⟨hd, hsorted, hentries⟩ := h
    obtain ⟨fs, hfs⟩ := exists_encodesEntry fun e he => ih e he (hentries e he)
    obtain ⟨d, rfl⟩ := Nat.exists_eq_add_one_of_ne_zero (Nat.ne_of_gt hd)
    exact ⟨.fields fs, encodes_fields hsorted hfs⟩

end Value

/-! ## Arguments -/

namespace CallArgs

theorem encode_eq {args : CallArgs} {d : Nat} {j : Json} (h : args.toValue.Encodes d j) :
    args.encode = .ok j.compact := by
  have htoJson : args.toValue.toJson = .ok j := h.toJsonAt _
  rw [encode, htoJson]
  rfl

end CallArgs

/-- The text of a JSON form that fits is read as it was. -/
theorem Value.Encodes.parse {v : Value} {j : Json} (h : v.Encodes maxDepth j) :
    Json.parse j.compact = .ok j := by
  rw [Json.parse_compact h.integral, Json.bounded, if_pos h.fits.2, h.fits.1.normal_eq]

end ModuleHost
