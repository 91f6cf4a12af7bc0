import ModuleHost.Proofs.Call.Canonical
import ModuleHost.Proofs.Engine.Delivery

/-!
# Values and JSON

JSON and values say the same up to the sign that an unsigned integer does not need.

* `Value.part?` — what stands at a place of a value; `Value.part?_canonical`;
* `Value.Finite`, `Value.Reduced` — every float is finite, every unsigned integer is too large for
  a signed one;
* **`Value.finite_iff_toJson`**: the finite values are those that have JSON;
* `Registry.ofJson_of_callService` — a value that a call returns is read from JSON;
* **`Value.corresponds`**: there and back in both directions, and which values have equal JSON.
-/

namespace ModuleHost

namespace Value

/-! ## Places -/

/-- What stands at a place of a value: the place is the list of the indices that lead there. -/
def part? : Value → List Nat → Option Value
  | v, [] => some v
  | .array items, i :: place => items[i]?.bind (part? · place)
  | .fields entries, i :: place => entries[i]?.bind fun e => e.2.part? place
  | _, _ :: _ => none

/-- Every float in the value is finite. -/
def Finite (v : Value) : Prop := ∀ place x, v.part? place = some (.float x) → x.isFinite = true

/-- Every unsigned integer in the value is too large for a signed one. -/
def Reduced (v : Value) : Prop :=
  ∀ place n, v.part? place = some (.uint n) → Int64.maxValue.toInt < n.toNat

theorem canonicalItems_eq (items : List Value) : canonicalItems items = items.map canonical := by
  induction items with
  | nil => rfl
  | cons v vs ih => rw [canonicalItems, ih, List.map_cons]

/-- The canonical form has at every place the canonical form of what the value has there. -/
theorem part?_canonical (v : Value) (place : List Nat) :
    v.canonical.part? place = (v.part? place).map canonical := by
  induction place generalizing v with
  | nil => rw [part?, part?, Option.map_some]
  | cons i place ih =>
    cases v with
    | null | bool | int | float | string => rfl
    | uint n =>
      rw [canonical]
      split <;> rfl
    | array items =>
      rw [canonical, canonicalItems_eq, part?, part?, List.getElem?_map, Option.map_bind,
        Option.bind_map]
      exact congrArg items[i]?.bind (funext fun v => ih v)
    | fields entries =>
      rw [canonical, canonicalEntries_eq, part?, part?, List.getElem?_map, Option.map_bind,
        Option.bind_map]
      exact congrArg entries[i]?.bind (funext fun e => ih e.2)

theorem canonical_eq_float {v : Value} {x : Binary64} : v.canonical = .float x ↔ v = .float x := by
  cases v with
  | uint n =>
    rw [canonical]
    split <;> simp
  | null | bool | int | float | string | array | fields => simp [canonical]

theorem part?_canonical_float {v : Value} {place : List Nat} {x : Binary64} :
    v.canonical.part? place = some (.float x) ↔ v.part? place = some (.float x) := by
  simp [part?_canonical, canonical_eq_float]

/-- An unsigned integer that is canonical does not fit a signed one. -/
theorem lt_of_canonical {n : UInt64} (h : (uint n).canonical = .uint n) :
    Int64.maxValue.toInt < n.toNat := by
  rw [canonical] at h
  split at h
  · cases h
  · next hn =>
    have hle : 0x8000000000000000 ≤ n.toNat :=
      Nat.not_lt.1 fun hlt => hn (UInt64.lt_iff_toNat_lt.2 hlt)
    have hmax : Int64.maxValue.toInt = 0x7FFFFFFFFFFFFFFF := by decide
    omega

theorem reduced_of_canonical {v : Value} (h : v.canonical = v) : v.Reduced := by
  intro place n hn
  have hpart := part?_canonical v place
  rw [h, hn, Option.map_some, Option.some.injEq] at hpart
  exact lt_of_canonical hpart.symm

/-! ## Finite values have JSON -/

theorem toJsonAt_of_mem {vs : List Value} {v : Value} (hv : v ∈ vs) :
    ∀ {path i js}, itemsToJson path i vs = .ok js → ∃ path j, v.toJsonAt path = .ok j := by
  induction vs with
  | nil => cases hv
  | cons w vs ih =>
    intro path i js h
    rw [itemsToJson] at h
    obtain ⟨j, hj, h⟩ := bind_eq_ok h
    obtain ⟨js', hjs, -⟩ := bind_eq_ok h
    cases hv with
    | head => exact ⟨_, j, hj⟩
    | tail _ hv => exact ih hv hjs

theorem toJsonAt_of_mem_entries {es : List (String × Value)} {e : String × Value} (he : e ∈ es) :
    ∀ {path fs}, entriesToJson path es = .ok fs → ∃ path j, e.2.toJsonAt path = .ok j := by
  induction es with
  | nil => cases he
  | cons f es ih =>
    intro path fs h
    rw [entriesToJson] at h
    obtain ⟨j, hj, h⟩ := bind_eq_ok h
    obtain ⟨fs', hfs, -⟩ := bind_eq_ok h
    cases he with
    | head => exact ⟨_, j, hj⟩
    | tail _ he => exact ih he hfs

theorem toJsonAt_part? {place : List Nat} : ∀ {v w : Value} {path : String} {j : Json},
    v.toJsonAt path = .ok j → v.part? place = some w → ∃ path j, w.toJsonAt path = .ok j := by
  induction place with
  | nil =>
    intro v w path j h hw
    rw [part?, Option.some.injEq] at hw
    exact ⟨path, j, hw ▸ h⟩
  | cons i place ih =>
    intro v w path j h hw
    cases v with
    | null | bool | int | uint | float | string => cases hw
    | array items =>
      rw [toJsonAt] at h
      obtain ⟨js, hjs, -⟩ := map_eq_ok h
      obtain ⟨v, hv, hw⟩ := Option.bind_eq_some_iff.1 hw
      obtain ⟨path, j, hj⟩ := toJsonAt_of_mem (List.mem_of_getElem? hv) hjs
      exact ih hj hw
    | fields entries =>
      rw [toJsonAt] at h
      obtain ⟨fs, hfs, -⟩ := map_eq_ok h
      obtain ⟨e, he, hw⟩ := Option.bind_eq_some_iff.1 hw
      obtain ⟨path, j, hj⟩ := toJsonAt_of_mem_entries (List.mem_of_getElem? he) hfs
      exact ih hj hw

theorem finite_item {items : List Value} (h : (array items).Finite) : ∀ v ∈ items, v.Finite := by
  intro v hv place x hx
  obtain ⟨i, hi⟩ := List.getElem?_of_mem hv
  exact h (i :: place) x (by rw [part?, hi, Option.bind_some, hx])

theorem finite_entry {entries : List (String × Value)} (h : (fields entries).Finite) :
    ∀ e ∈ entries, e.2.Finite := by
  intro e he place x hx
  obtain ⟨i, hi⟩ := List.getElem?_of_mem he
  exact h (i :: place) x (by rw [part?, hi, Option.bind_some, hx])

theorem itemsToJson_ok {vs : List Value} (h : ∀ v ∈ vs, ∀ path, ∃ j, v.toJsonAt path = .ok j)
    (path : String) : ∀ i, ∃ js, itemsToJson path i vs = .ok js := by
  induction vs with
  | nil => exact fun _ => ⟨[], rfl⟩
  | cons v vs ih =>
    intro i
    obtain ⟨j, hj⟩ := h v List.mem_cons_self (itemPath path i)
    obtain ⟨js, hjs⟩ := ih (fun v hv => h v (List.mem_cons_of_mem _ hv)) (i + 1)
    exact ⟨j :: js, by rw [itemsToJson, hj, hjs]; rfl⟩

theorem entriesToJson_ok {es : List (String × Value)}
    (h : ∀ e ∈ es, ∀ path, ∃ j, e.2.toJsonAt path = .ok j) (path : String) :
    ∃ fs, entriesToJson path es = .ok fs := by
  induction es with
  | nil => exact ⟨[], rfl⟩
  | cons e es ih =>
    obtain ⟨j, hj⟩ := h e List.mem_cons_self (fieldPath path e.1)
    obtain ⟨fs, hfs⟩ := ih fun e he => h e (List.mem_cons_of_mem _ he)
    exact ⟨(e.1, j) :: fs, by rw [entriesToJson, hj, hfs]; rfl⟩

theorem toJsonAt_of_finite {v : Value} :
    v.Finite → ∀ path, ∃ j, v.toJsonAt path = .ok j := by
  induction v with
  | null | bool | int | uint | string => exact fun _ path => ⟨_, rfl⟩
  | float x =>
    intro h path
    have hx : x.isFinite = true := h [] x rfl
    exact ⟨.number (.float x hx), by rw [toJsonAt, dif_pos hx]⟩
  | array items ih =>
    intro h path
    obtain ⟨js, hjs⟩ := itemsToJson_ok (fun v hv => ih v hv (finite_item h v hv)) path 0
    exact ⟨.array js, by rw [toJsonAt, hjs]; rfl⟩
  | fields entries ih =>
    intro h path
    obtain ⟨fs, hfs⟩ := entriesToJson_ok (fun e he => ih e he (finite_entry h e he)) path
    exact ⟨.fields fs, by rw [toJsonAt, hfs]; rfl⟩

/-- **The finite values are those that have JSON.** -/
theorem finite_iff_toJson {v : Value} : v.Finite ↔ ∃ j, v.toJson = .ok j := by
  refine ⟨fun h => toJsonAt_of_finite h "$", ?_⟩
  rintro ⟨j, hj⟩ place x hx
  obtain ⟨path, k, hk⟩ := toJsonAt_part? hj hx
  rw [toJsonAt] at hk
  split at hk
  · assumption
  · cases hk

theorem finite_ofJson (j : Json) : (ofJson j).Finite :=
  finite_iff_toJson.2 ⟨j, toJsonAt_ofJson j "$"⟩

theorem reduced_ofJson (j : Json) : (ofJson j).Reduced :=
  reduced_of_canonical (canonical_ofJson j)

/-- Finite values have the same JSON if and only if their canonical forms are the same. -/
theorem toJson_eq_iff {v w : Value} (hv : v.Finite) (hw : w.Finite) :
    v.toJson = w.toJson ↔ v.canonical = w.canonical := by
  obtain ⟨j, hj⟩ := toJsonAt_of_finite hv "$"
  obtain ⟨k, hk⟩ := toJsonAt_of_finite hw "$"
  have hjv := ofJson_of_toJsonAt hj
  have hkw := ofJson_of_toJsonAt hk
  constructor
  · intro h
    have hjk : j = k := Except.ok.inj (hj.symm.trans (h.trans hk))
    rw [← hjv, ← hkw, hjk]
  · intro h
    have hread : ofJson j = ofJson k := by rw [hjv, hkw, h]
    calc v.toJson = .ok j := hj
      _ = (ofJson j).toJsonAt "$" := (toJsonAt_ofJson j "$").symm
      _ = .ok k := by rw [hread, toJsonAt_ofJson]
      _ = w.toJson := hk.symm

end Value

/-! ## Values that calls return -/

namespace Registry

variable {R : ControlRuntime}

theorem ofJson_of_readAnswer {function : String} {answer : Except RuntimeError String} {v : Value}
    (h : readAnswer function answer = .ok v) : ∃ j, v = .ofJson j := by
  cases answer with
  | error cause => cases h
  | ok raw =>
    rw [readAnswer, readReply] at h
    cases he : Envelope.decode raw with
    | error e =>
      rw [he] at h
      cases h
    | ok envelope =>
      simp only [he, Envelope.outcome] at h
      by_cases hempty : envelope.error = ""
      · rw [if_pos hempty] at h
        cases h
        exact ⟨envelope.result, rfl⟩
      · rw [if_neg hempty] at h
        cases h

theorem ofJson_of_callService {r : Registry R} {id function : String} {args : CallArgs}
    {parameters : CallParameters} {v : Value}
    (h : (r.callService id function args parameters).result = some (.ok v)) :
    ∃ j, v = .ofJson j := by
  unfold callService at h
  split at h
  · cases h
  split at h
  · cases h
  split at h
  · cases h
  · rw [invoke] at h
    obtain ⟨answer, -, hanswer⟩ := Option.map_eq_some_iff.1 h
    exact ofJson_of_readAnswer hanswer

end Registry

/-! ## The correspondence -/

namespace Value

/-- **JSON values and values correspond.** The value of JSON has that JSON, holds finite floats only
and no unsigned integer that could be signed. A finite value has JSON, whose value is its canonical
form, with the same floats at the same places. Finite values have the same JSON if and only if their
canonical forms are the same. A value that a call returns has JSON, whose value it is. -/
theorem corresponds :
    (∀ j : Json, (ofJson j).toJson = .ok j ∧ (ofJson j).Finite ∧ (ofJson j).Reduced) ∧
    (∀ v : Value, v.Finite → ∃ j, v.toJson = .ok j ∧ ofJson j = v.canonical ∧
      ∀ place x, (ofJson j).part? place = some (.float x) ↔ v.part? place = some (.float x)) ∧
    (∀ v w : Value, v.Finite → w.Finite → (v.toJson = w.toJson ↔ v.canonical = w.canonical)) ∧
    ∀ (R : ControlRuntime) (r : Registry R) (id function : String) (args : CallArgs)
      (parameters : CallParameters) (v : Value),
      (r.callService id function args parameters).result = some (.ok v) →
        ∃ j, v.toJson = .ok j ∧ ofJson j = v := by
  refine ⟨fun j => ⟨toJsonAt_ofJson j "$", finite_ofJson j, reduced_ofJson j⟩, ?_,
    fun v w hv hw => toJson_eq_iff hv hw, ?_⟩
  · intro v hv
    obtain ⟨j, hj⟩ := toJsonAt_of_finite hv "$"
    have hread : ofJson j = v.canonical := ofJson_of_toJsonAt hj
    refine ⟨j, hj, hread, fun place x => ?_⟩
    rw [hread, part?_canonical_float]
  · intro R r id function args parameters v h
    obtain ⟨j, rfl⟩ := Registry.ofJson_of_callService h
    exact ⟨j, toJsonAt_ofJson j "$", rfl⟩

/-- An object with the integer 5, the float 5 and the largest unsigned integer. -/
def fives : Value :=
  .fields [("a", .array [.uint 5, .float ⟨0x4014000000000000⟩]), ("b", .uint 0xFFFFFFFFFFFFFFFF)]

/-- The same object with its integer signed. -/
def signedFives : Value :=
  .fields [("a", .array [.int 5, .float ⟨0x4014000000000000⟩]), ("b", .uint 0xFFFFFFFFFFFFFFFF)]

/-- The JSON of both. -/
def fivesJson : Json :=
  .fields [("a", .array [.nat 5, .number (.float ⟨0x4014000000000000⟩ rfl)]),
    ("b", .nat 0xFFFFFFFFFFFFFFFF)]

theorem corresponds_fives :
    (fives.Finite ∧ ∃ j, fives.toJson = .ok j ∧ ofJson j = fives.canonical ∧
      ∀ place x, (ofJson j).part? place = some (.float x) ↔ fives.part? place = some (.float x)) ∧
    (signedFives.Finite ∧
      (fives.toJson = signedFives.toJson ↔ fives.canonical = signedFives.canonical)) ∧
    ∃ v, (Registry.echoing.callService "s" "e" (.positional [Registry.nestedValue 1]) {}).result =
        some (.ok v) ∧ ∃ j, v.toJson = .ok j ∧ ofJson j = v := by
  have hfives : fives.Finite := finite_iff_toJson.2 ⟨fivesJson, rfl⟩
  have hsigned : signedFives.Finite := finite_iff_toJson.2 ⟨fivesJson, rfl⟩
  have completes : Registry.echoing.completion "s" "e" (.positional [Registry.nestedValue 1]) {} =
      some ⟨0, Registry.nestedText 2⟩ := by decide +kernel
  have returned : (Registry.echoing.callService "s" "e" (.positional [Registry.nestedValue 1])
      {}).result = some (.ok (.ofJson (Registry.nested 2))) := by
    rw [Registry.callService_eq_readReply completes rfl (by decide +kernel)
      (Registry.parse_nestedText (by decide) (by decide +kernel)),
      Registry.readReply_ok (Registry.integral_nested 2) ⟨⟨trivial, trivial⟩, trivial⟩,
      if_pos (by decide)]
  exact ⟨⟨hfives, corresponds.2.1 fives hfives⟩,
    ⟨hsigned, corresponds.2.2.1 fives signedFives hfives hsigned⟩,
    _, returned, corresponds.2.2.2 _ _ _ _ _ _ _ returned⟩

end Value

end ModuleHost
