import ModuleHost.Engine.Invocation
import ModuleHost.Proofs.Call.Encoding

/-!
# Arguments across the wire

JSON has one kind of number where values have two kinds of integers, so a value comes back with
every integer signed that can be.

* `Value.canonical`, `CallArgs.canonical` — the value with every integer signed that can be;
* **`Value.ofJson_of_toJsonAt`**: the JSON of a value is read as its canonical form;
* **`Value.toJsonAt_ofJson`**: the value of a JSON value has that JSON again;
* `FunctionSignature.unreadable` — how a function refuses arguments that are not JSON;
* **`CallArgs.survives`**: arguments of integers that open few enough brackets come back canonical,
  and arguments of integers that were read are canonical, come back as they are and are readable.
-/

namespace ModuleHost

open Json.Reader (maxDepth)

/-! ## Canonical values -/

namespace Value

mutual

/-- The value with every unsigned integer signed that 64 bits hold so. -/
def canonical : Value → Value
  | .uint n => if n < 0x8000000000000000 then .int n.toInt64 else .uint n
  | .array items => .array (canonicalItems items)
  | .fields entries => .fields (canonicalEntries entries)
  | v => v

/-- The items in that form. -/
def canonicalItems : List Value → List Value
  | [] => []
  | v :: vs => canonical v :: canonicalItems vs

/-- The values of the entries in that form. -/
def canonicalEntries : List (String × Value) → List (String × Value)
  | [] => []
  | (k, v) :: es => (k, canonical v) :: canonicalEntries es

end

mutual

/-- Every number in the value is an integer. -/
def Integral : Value → Prop
  | .float _ => False
  | .array items => IntegralItems items
  | .fields entries => IntegralEntries entries
  | _ => True

/-- Every number in the items is an integer. -/
def IntegralItems : List Value → Prop
  | [] => True
  | v :: vs => Integral v ∧ IntegralItems vs

/-- Every number in the entries is an integer. -/
def IntegralEntries : List (String × Value) → Prop
  | [] => True
  | (_, v) :: es => Integral v ∧ IntegralEntries es

end

theorem canonicalEntries_eq (entries : List (String × Value)) :
    canonicalEntries entries = entries.map fun e => (e.1, e.2.canonical) := by
  induction entries with
  | nil => rfl
  | cons e es ih => rw [canonicalEntries, ih, List.map_cons]

theorem sorted_canonicalEntries {entries : List (String × Value)} (h : Fields.Sorted entries) :
    Fields.Sorted (canonicalEntries entries) := by
  rw [canonicalEntries_eq]
  exact List.pairwise_map.2 h

theorem integralItems_iff {items : List Value} :
    IntegralItems items ↔ ∀ v ∈ items, v.Integral := by
  induction items with
  | nil => simp [IntegralItems]
  | cons v vs ih => simp [IntegralItems, ih]

theorem integralEntries_iff {entries : List (String × Value)} :
    IntegralEntries entries ↔ ∀ e ∈ entries, e.2.Integral := by
  induction entries with
  | nil => simp [IntegralEntries]
  | cons e es ih => simp [IntegralEntries, ih]

theorem ofItems_eq (js : List Json) : ofItems js = js.map ofJson := by
  induction js with
  | nil => rfl
  | cons j js ih => rw [ofItems, ih, List.map_cons]

theorem ofEntries_eq (es : List (String × Json)) :
    ofEntries es = es.map fun e => (e.1, ofJson e.2) := by
  induction es with
  | nil => rfl
  | cons e es ih => rw [ofEntries, ih, List.map_cons]

/-! ## There and back -/

theorem toUInt64_lt {n : Int64} (h : ¬n < 0) : n.toUInt64 < 0x8000000000000000 := by
  have hle : 0 ≤ n := Int64.not_lt.1 h
  have hn := n.toInt_lt
  rw [UInt64.lt_iff_toNat_lt, Int64.toNat_toUInt64_of_le hle]
  show n.toInt.toNat < 0x8000000000000000
  omega

theorem toInt64_not_neg {n : UInt64} (h : n < 0x8000000000000000) : ¬n.toInt64 < 0 := by
  have hn : n.toNat < 0x8000000000000000 := UInt64.lt_iff_toNat_lt.1 h
  have heq : n.toInt64.toInt = n.toNat := BitVec.toInt_eq_toNat_of_lt (by
    show 2 * n.toNat < 2 ^ 64
    omega)
  rw [Int64.lt_iff_toInt_lt, heq]
  exact Int.not_lt.2 (Int.natCast_nonneg _)

theorem ofNumber_ofInt64 (n : Int64) : ofNumber (.ofInt64 n) = .int n := by
  unfold Json.Number.ofInt64
  split
  · rfl
  · next h => rw [ofNumber, if_pos (toUInt64_lt h), Int64.toInt64_toUInt64]

theorem toJsonAt_ofNumber (n : Json.Number) (path : String) :
    (ofNumber n).toJsonAt path = .ok (.number n) := by
  cases n with
  | natural n =>
    by_cases hn : n < 0x8000000000000000
    · rw [ofNumber, if_pos hn, toJsonAt, Json.int, Json.Number.ofInt64,
        dif_neg (toInt64_not_neg hn), UInt64.toUInt64_toInt64]
    · rw [ofNumber, if_neg hn]
      rfl
  | negative n neg => rw [ofNumber, toJsonAt, Json.int, Json.Number.ofInt64, dif_pos neg]
  | float x finite => rw [ofNumber, toJsonAt, dif_pos finite]

/-- A step that succeeds comes from a value with which the rest succeeds. -/
theorem bind_eq_ok {ε α β : Type} {x : Except ε α} {f : α → Except ε β} {b : β}
    (h : x >>= f = .ok b) : ∃ a, x = .ok a ∧ f a = .ok b := by
  cases x with
  | error e => cases h
  | ok a => exact ⟨a, rfl, h⟩

theorem map_eq_ok {ε α β : Type} {x : Except ε α} {f : α → β} {b : β} (h : f <$> x = .ok b) :
    ∃ a, x = .ok a ∧ f a = b := by
  cases x with
  | error e => cases h
  | ok a => exact ⟨a, rfl, Except.ok.inj h⟩

theorem ofItems_of_itemsToJson {vs : List Value}
    (ih : ∀ v ∈ vs, ∀ {path j}, v.toJsonAt path = .ok j → ofJson j = v.canonical) :
    ∀ {path i js}, itemsToJson path i vs = .ok js → ofItems js = canonicalItems vs := by
  induction vs with
  | nil =>
    intro path i js h
    cases h
    rfl
  | cons v vs ihs =>
    intro path i js h
    rw [itemsToJson] at h
    obtain ⟨j, hj, h⟩ := bind_eq_ok h
    obtain ⟨js', hjs, h⟩ := bind_eq_ok h
    cases h
    rw [ofItems, canonicalItems, ih v List.mem_cons_self hj,
      ihs (fun v hv => ih v (List.mem_cons_of_mem _ hv)) hjs]

theorem ofEntries_of_entriesToJson {es : List (String × Value)}
    (ih : ∀ e ∈ es, ∀ {path j}, e.2.toJsonAt path = .ok j → ofJson j = e.2.canonical) :
    ∀ {path fs}, entriesToJson path es = .ok fs → ofEntries fs = canonicalEntries es := by
  induction es with
  | nil =>
    intro path fs h
    cases h
    rfl
  | cons e es ihs =>
    intro path fs h
    rw [entriesToJson] at h
    obtain ⟨j, hj, h⟩ := bind_eq_ok h
    obtain ⟨fs', hfs, h⟩ := bind_eq_ok h
    cases h
    rw [ofEntries, canonicalEntries, ih e List.mem_cons_self hj,
      ihs (fun e he => ih e (List.mem_cons_of_mem _ he)) hfs]

/-- **The JSON of a value is read as its canonical form.** -/
theorem ofJson_of_toJsonAt {v : Value} :
    ∀ {path j}, v.toJsonAt path = .ok j → ofJson j = v.canonical := by
  induction v with
  | null | bool | string =>
    intro path j h
    cases h
    rfl
  | int n =>
    intro path j h
    cases h
    exact ofNumber_ofInt64 n
  | uint n =>
    intro path j h
    cases h
    rfl
  | float x =>
    intro path j h
    rw [toJsonAt] at h
    split at h
    · cases h
      rfl
    · cases h
  | array items ih =>
    intro path j h
    rw [toJsonAt] at h
    obtain ⟨js, hjs, rfl⟩ := map_eq_ok h
    rw [ofJson, canonical, ofItems_of_itemsToJson ih hjs]
  | fields entries ih =>
    intro path j h
    rw [toJsonAt] at h
    obtain ⟨fs, hfs, rfl⟩ := map_eq_ok h
    rw [ofJson, canonical, ofEntries_of_entriesToJson ih hfs]

theorem itemsToJson_ofItems {js : List Json}
    (ih : ∀ j ∈ js, ∀ path, (ofJson j).toJsonAt path = .ok j) (path : String) :
    ∀ i, itemsToJson path i (ofItems js) = .ok js := by
  induction js with
  | nil => exact fun _ => rfl
  | cons j js ihs =>
    intro i
    rw [ofItems, itemsToJson, ih j List.mem_cons_self,
      ihs fun j hj => ih j (List.mem_cons_of_mem _ hj)]
    rfl

theorem entriesToJson_ofEntries {fs : List (String × Json)}
    (ih : ∀ e ∈ fs, ∀ path, (ofJson e.2).toJsonAt path = .ok e.2) (path : String) :
    entriesToJson path (ofEntries fs) = .ok fs := by
  induction fs with
  | nil => rfl
  | cons e fs ihs =>
    rw [ofEntries, entriesToJson, ih e List.mem_cons_self,
      ihs fun e he => ih e (List.mem_cons_of_mem _ he)]
    rfl

/-- **The value of a JSON value has that JSON again**, wherever it stands. -/
theorem toJsonAt_ofJson (j : Json) : ∀ path, (ofJson j).toJsonAt path = .ok j := by
  induction j with
  | null | bool | string => exact fun _ => rfl
  | number n => exact toJsonAt_ofNumber n
  | array items ih =>
    intro path
    rw [ofJson, toJsonAt, itemsToJson_ofItems ih]
    rfl
  | fields entries ih =>
    intro path
    rw [ofJson, toJsonAt, entriesToJson_ofEntries ih]
    rfl

theorem canonical_ofJson (j : Json) : (ofJson j).canonical = ofJson j :=
  (ofJson_of_toJsonAt (toJsonAt_ofJson j "")).symm

theorem sorted_of_ofJson {j : Json} {entries : List (String × Value)} (h : j.Sorted)
    (hvalue : ofJson j = .fields entries) : Fields.Sorted entries := by
  cases j with
  | fields members =>
    cases hvalue
    rw [ofEntries_eq]
    exact List.pairwise_map.2 h.1
  | number n =>
    cases n with
    | natural n =>
      rw [ofJson, ofNumber] at hvalue
      split at hvalue <;> cases hvalue
    | negative | float => cases hvalue
  | null | bool | string | array => cases hvalue

theorem integral_of_ofJson {j : Json} : (ofJson j).Integral → j.Integral := by
  induction j with
  | null | bool | string => exact fun _ => trivial
  | number n =>
    cases n with
    | natural | negative => exact fun _ => trivial
    | float x finite => exact fun h => nomatch h
  | array items ih =>
    intro h
    rw [ofJson, Integral, integralItems_iff, ofItems_eq, List.forall_mem_map] at h
    rw [Json.Integral, Json.integralItems_iff]
    exact fun j hj => ih j hj (h j hj)
  | fields entries ih =>
    intro h
    rw [ofJson, Integral, integralEntries_iff, ofEntries_eq, List.forall_mem_map] at h
    rw [Json.Integral, Json.integralEntries_iff]
    exact fun e he => ih e he (h e he)

theorem encodes_ofJson {d : Nat} {j : Json} (fits : Json.Reader.Fits d j)
    (integral : (ofJson j).Integral) : (ofJson j).Encodes d j :=
  ⟨toJsonAt_ofJson j, integral_of_ofJson integral, fits⟩

end Value

/-! ## Canonical arguments -/

namespace CallArgs

/-- The arguments in canonical form. -/
def canonical : CallArgs → CallArgs
  | .positional values => .positional (Value.canonicalItems values)
  | .named values =>
    .named ⟨Value.canonicalEntries values.fields, Value.sorted_canonicalEntries values.sorted⟩

theorem toValue_canonical (args : CallArgs) :
    args.canonical.toValue = args.toValue.canonical := by
  cases args <;> rfl

theorem toValue_inj {a b : CallArgs} (h : a.toValue = b.toValue) : a = b := by
  cases a with
  | positional values =>
    cases b with
    | positional values' =>
      cases h
      rfl
    | named values' => cases h
  | named values =>
    cases b with
    | positional values' => cases h
    | named values' =>
      obtain ⟨fields, sorted⟩ := values
      obtain ⟨fields', sorted'⟩ := values'
      cases h
      rfl

theorem ofList_fields (d : Dict String Value) : Dict.ofList d.fields = d := by
  obtain ⟨fields, sorted⟩ := d
  simp only [Dict.ofList, sorted.ofList_eq]

theorem parse_of_ofJson {raw : String} {j : Json} {args : CallArgs}
    (hparse : Json.parse raw = .ok j) (hvalue : Value.ofJson j = args.toValue) :
    parse raw = .ok args := by
  rw [parse, hparse]
  simp only [hvalue]
  cases args with
  | positional values => rfl
  | named values => exact congrArg (fun d => Except.ok (named d)) (ofList_fields values)

theorem ofJson_of_parse {raw : String} {args : CallArgs} (h : parse raw = .ok args) :
    ∃ j, Json.parse raw = .ok j ∧ Value.ofJson j = args.toValue := by
  cases hj : Json.parse raw with
  | error cause =>
    rw [parse, hj] at h
    cases h
  | ok j =>
    rw [parse, hj] at h
    simp only at h
    split at h
    · next items hvalue =>
      cases h
      exact ⟨j, rfl, hvalue⟩
    · next entries hvalue =>
      cases h
      have hsorted := Value.sorted_of_ofJson (Json.parseText_ok hj).1 hvalue
      exact ⟨j, rfl, hvalue.trans (congrArg Value.fields hsorted.ofList_eq.symm)⟩
    · cases h

end CallArgs

/-! ## Readable arguments -/

/-- The refusal of arguments that are not JSON. -/
def FunctionSignature.unreadable (f : FunctionSignature) (cause : Json.ReadError) : GuestError :=
  .argumentMismatch f.name s!"arguments are not valid JSON: {cause.plainTag}"

theorem membersInOrder_reason {entries : List (String × Json)} {params : List String}
    {reason : String} (h : membersInOrder entries params = .error reason) :
    ∃ param : String, reason = s!"missing argument `{param}`" := by
  induction params generalizing entries with
  | nil => cases h
  | cons param params ih =>
    rw [membersInOrder] at h
    split at h
    · cases h
      exact ⟨param, rfl⟩
    · next j hj =>
      cases hrest : membersInOrder (Fields.erase param entries) params with
      | error reason' =>
        rw [hrest] at h
        cases h
        exact ih hrest
      | ok js =>
        rw [hrest] at h
        cases h

theorem orderArguments_reason {params : List String} {j : Json} {reason : String}
    (h : orderArguments params j = .error reason) :
    reason.toList.take 11 ≠ "arguments a".toList := by
  unfold orderArguments at h
  split at h
  · split at h
    · cases h
    · cases h
      simp [toString, String.toList_append]
  · obtain ⟨param, rfl⟩ := membersInOrder_reason h
    simp [toString, String.toList_append]
  · cases h
    decide

theorem FunctionSignature.arguments_ne_unreadable {raw : String} {j : Json}
    (h : Json.parse raw = .ok j) (f : FunctionSignature) (cause : Json.ReadError) :
    f.arguments raw ≠ .error (f.unreadable cause) := by
  intro hf
  rw [arguments, h] at hf
  simp only at hf
  split at hf
  · next reason hreason =>
    cases hf
    exact orderArguments_reason hreason (by simp [toString, String.toList_append])
  · cases hf

namespace CallArgs

/-- **Arguments survive the wire.** Those of integers that open at most 127 brackets at one point
come back in canonical form. Those of integers that are read from a text are canonical, come back
from their own text, and no function refuses either text as something else than JSON. -/
theorem survives :
    (∀ args : CallArgs, args.toValue.Fits maxDepth →
      ∃ text, args.encode = .ok text ∧ parse text = .ok args.canonical) ∧
    ∀ (raw : String) (args : CallArgs), parse raw = .ok args → args.toValue.Integral →
      args.canonical = args ∧
        ∃ text, args.encode = .ok text ∧ parse text = .ok args ∧
          ∀ (f : FunctionSignature) (cause : Json.ReadError),
            f.arguments raw ≠ .error (f.unreadable cause) ∧
              f.arguments text ≠ .error (f.unreadable cause) := by
  refine ⟨fun args fits => ?_, fun raw args accepted integral => ?_⟩
  · obtain ⟨j, hj⟩ := fits.encodes
    refine ⟨_, encode_eq hj, parse_of_ofJson hj.parse ?_⟩
    rw [Value.ofJson_of_toJsonAt (hj.toJsonAt ""), toValue_canonical]
  · obtain ⟨j, hparse, hvalue⟩ := ofJson_of_parse accepted
    have hj : args.toValue.Encodes maxDepth j := by
      rw [← hvalue] at integral ⊢
      exact Value.encodes_ofJson (Json.parseText_ok hparse) integral
    have hcanonical : args.canonical.toValue = args.toValue := by
      rw [toValue_canonical, ← hvalue, Value.canonical_ofJson]
    refine ⟨toValue_inj hcanonical, _, encode_eq hj, parse_of_ofJson hj.parse hvalue, ?_⟩
    exact fun f cause =>
      ⟨f.arguments_ne_unreadable hparse cause, f.arguments_ne_unreadable hj.parse cause⟩

/-- Arguments by name with an unsigned integer that can be signed, and one that cannot. -/
def counted : CallArgs :=
  .named ⟨[("n", .uint 5), ("xs", .array [.uint 0xFFFFFFFFFFFFFFFF, .string "\n\""])], by decide⟩

/-- The object of such arguments with a key that comes twice and keys out of order. -/
def countedJson : Json :=
  .fields [("xs", .array [.nat 0xFFFFFFFFFFFFFFFF, .string "\n\""]), ("n", .nat 7), ("n", .nat 5)]

theorem survives_counted :
    counted.toValue.Fits maxDepth ∧
      (∃ text, counted.encode = .ok text ∧ parse text = .ok counted.canonical) ∧
      parse countedJson.compact = .ok counted.canonical ∧ counted.canonical.toValue.Integral ∧
      counted.canonical.canonical = counted.canonical ∧
        ∃ text, counted.canonical.encode = .ok text ∧ parse text = .ok counted.canonical ∧
          ∀ (f : FunctionSignature) (cause : Json.ReadError),
            f.arguments countedJson.compact ≠ .error (f.unreadable cause) ∧
              f.arguments text ≠ .error (f.unreadable cause) := by
  have hfits : counted.toValue.Fits maxDepth :=
    ⟨by decide, by decide, trivial, ⟨by decide, trivial, trivial, trivial⟩, trivial⟩
  have hnumbers : countedJson.Integral := ⟨⟨trivial, trivial, trivial⟩, trivial, trivial, trivial⟩
  have hjson : Json.parse countedJson.compact = .ok countedJson.normal := by
    rw [Json.parse_compact hnumbers]
    rfl
  have hparse : parse countedJson.compact = .ok counted.canonical := parse_of_ofJson hjson rfl
  have hintegral : counted.canonical.toValue.Integral :=
    ⟨trivial, ⟨trivial, trivial, trivial⟩, trivial⟩
  exact ⟨hfits, survives.1 counted hfits, hparse, hintegral,
    survives.2 countedJson.compact counted.canonical hparse hintegral⟩

end CallArgs

end ModuleHost
