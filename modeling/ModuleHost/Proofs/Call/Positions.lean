import Mathlib.Data.List.Lex
import ModuleHost.Proofs.Call.Correspondence

/-!
# Numbers without JSON

A number that is not finite has no JSON. The first one in a value is told by its position.

* `Value.Position`, `Position.text` — the way from a value down to a part of it, and how it is told;
* `Position.Precedes` — the order in which parts are visited: items by index, fields by key;
* `Value.at?` — what stands at a position;
* `Value.Sorted` — every object lists its fields in order of key;
* `Value.FirstNonFinite` — the first number that is not finite;
* **`Value.toJsonAt_eq_error`**: a value without JSON is refused for that number;
* **`Value.locates`**: which values are refused and for what, and which arguments are.
-/

namespace ModuleHost

theorem Binary64.isFinite_eq_false {x : Binary64} :
    x.isFinite = false ↔ x.isNaN ∨ x.isInfinite := by
  have hexponent : x.exponent < 0x7FF ↔ x.unsigned < 0x7FF * unit :=
    Nat.div_lt_iff_lt_mul (by decide)
  simp only [isFinite, isNaN, isInfinite, decide_eq_false_iff_not, decide_eq_true_eq, hexponent]
  omega

namespace Value

/-! ## Positions -/

/-- A step down into a value. -/
inductive Step where
  | item (i : Nat)
  | field (key : String)

/-- How a step is told. -/
def Step.text : Step → String
  | .item i => s!"[{i}]"
  | .field key => s!".{key}"

/-- Items are visited by index, fields by key. -/
inductive Step.Before : Step → Step → Prop
  | item {i j : Nat} (less : i < j) : Before (.item i) (.item j)
  | field {k l : String} (less : compare k l = .lt) : Before (.field k) (.field l)

/-- The way from a value down to a part of it. -/
abbrev Position := List Step

/-- How a position below `path` is told. -/
def Position.textFrom (path : String) (p : Position) : String :=
  p.foldl (fun path step => path ++ step.text) path

/-- How a position in a whole value is told. -/
def Position.text (p : Position) : String := p.textFrom "$"

/-- One position is visited before another. -/
def Position.Precedes (p q : Position) : Prop := List.Lex Step.Before p q

/-- What one step leads to. -/
def down? : Value → Step → Option Value
  | .array items, .item i => items[i]?
  | .fields entries, .field key => Fields.get? key entries
  | _, _ => none

/-- What stands at a position of a value. -/
def at? (v : Value) : Position → Option Value
  | [] => some v
  | step :: p => (v.down? step).bind (at? · p)

instance : Std.Asymm Step.Before where
  asymm := by
    rintro _ _ (hij | hkl) (hji | hlk)
    · exact Nat.lt_asymm hij hji
    · rw [Std.OrientedCmp.gt_of_lt hkl] at hlk
      cases hlk

theorem Position.Precedes.asymm {p q : Position} (h : p.Precedes q) : ¬ q.Precedes p :=
  Std.Asymm.asymm (r := List.Lex Step.Before) p q h

theorem itemPath_eq (path : String) (i : Nat) : itemPath path i = path ++ (Step.item i).text := by
  simp [itemPath, Step.text, toString, String.append_assoc]

theorem fieldPath_eq (path key : String) : fieldPath path key = path ++ (Step.field key).text := by
  simp [fieldPath, Step.text, toString, String.append_assoc]

/-! ## Values with sorted objects -/

mutual

/-- Every object in the value lists its fields in order of key, each key once, as maps do. -/
def Sorted : Value → Prop
  | .array items => SortedItems items
  | .fields entries => Fields.Sorted entries ∧ SortedEntries entries
  | _ => True

/-- Every one of the items is sorted. -/
def SortedItems : List Value → Prop
  | [] => True
  | v :: vs => Sorted v ∧ SortedItems vs

/-- The value of every entry is sorted. -/
def SortedEntries : List (String × Value) → Prop
  | [] => True
  | (_, v) :: es => Sorted v ∧ SortedEntries es

end

theorem sortedItems_iff {items : List Value} : SortedItems items ↔ ∀ v ∈ items, v.Sorted := by
  induction items with
  | nil => simp [SortedItems]
  | cons v vs ih => simp [SortedItems, ih]

theorem sortedEntries_iff {entries : List (String × Value)} :
    SortedEntries entries ↔ ∀ e ∈ entries, e.2.Sorted := by
  induction entries with
  | nil => simp [SortedEntries]
  | cons e es ih => simp [SortedEntries, ih]

/-! ## The first number that is not finite -/

/-- The number `x` at the position `p` is the first one of a value that is not finite. -/
structure FirstNonFinite (v : Value) (p : Position) (x : Binary64) : Prop where
  there : v.at? p = some (.float x)
  nonFinite : x.isFinite = false
  first : ∀ q y, v.at? q = some (.float y) → y.isFinite = false → q ≠ p → p.Precedes q

/-- There is one such number at most. -/
theorem FirstNonFinite.unique {v : Value} {p q : Position} {x y : Binary64}
    (hp : v.FirstNonFinite p x) (hq : v.FirstNonFinite q y) : p = q ∧ x = y := by
  have heq : p = q := by
    by_contra hne
    exact (hp.first q y hq.there hq.nonFinite (Ne.symm hne)).asymm
      (hq.first p x hp.there hp.nonFinite hne)
  subst heq
  have hvalue : some (float x) = some (float y) := hp.there.symm.trans hq.there
  exact ⟨rfl, by simpa using hvalue⟩

theorem toJsonAt_down? {v w : Value} {step : Step} {path : String} {j : Json}
    (h : v.toJsonAt path = .ok j) (hw : v.down? step = some w) :
    ∃ path j, w.toJsonAt path = .ok j := by
  unfold down? at hw
  split at hw
  · rw [toJsonAt] at h
    obtain ⟨js, hjs, -⟩ := map_eq_ok h
    exact toJsonAt_of_mem (List.mem_of_getElem? hw) hjs
  · rw [toJsonAt] at h
    obtain ⟨fs, hfs, -⟩ := map_eq_ok h
    exact toJsonAt_of_mem_entries (Fields.mem_of_get? hw) hfs
  · cases hw

theorem isFinite_of_toJsonAt {p : Position} {x : Binary64} :
    ∀ {v : Value} {path : String} {j : Json}, v.toJsonAt path = .ok j →
      v.at? p = some (.float x) → x.isFinite = true := by
  induction p with
  | nil =>
    intro v path j h hx
    rw [at?, Option.some.injEq] at hx
    rw [hx, toJsonAt] at h
    split at h
    · assumption
    · cases h
  | cons step p ih =>
    intro v path j h hx
    obtain ⟨w, hw, hx⟩ := Option.bind_eq_some_iff.1 hx
    obtain ⟨path, j, hj⟩ := toJsonAt_down? h hw
    exact ih hj hx

/-- The first number of a part is the first one of the value, if no part visited before has one. -/
theorem FirstNonFinite.up {v w : Value} {step : Step} {p : Position} {x : Binary64}
    (hw : w.FirstNonFinite p x) (down : v.down? step = some w) (part : ∀ y, v ≠ .float y)
    (before : ∀ step' w', v.down? step' = some w' → step' ≠ step →
      (∃ path j, w'.toJsonAt path = .ok j) ∨ step.Before step') :
    v.FirstNonFinite (step :: p) x where
  there := by rw [at?, down, Option.bind_some, hw.there]
  nonFinite := hw.nonFinite
  first q y hy nonFinite hne := by
    cases q with
    | nil =>
      rw [at?, Option.some.injEq] at hy
      exact absurd hy (part y)
    | cons step' q =>
      obtain ⟨w', hdown, hy⟩ := Option.bind_eq_some_iff.1 hy
      by_cases hstep : step' = step
      · subst hstep
        cases hdown.symm.trans down
        exact .cons (hw.first q y hy nonFinite fun hq => hne (congrArg _ hq))
      · rcases before step' w' hdown hstep with ⟨path, j, hj⟩ | hbefore
        · rw [isFinite_of_toJsonAt hj hy] at nonFinite
          cases nonFinite
        · exact .rel hbefore

/-! ## Refusals -/

/-- Why a number that is not finite has no JSON. -/
def nonFiniteReason (x : Binary64) : String :=
  s!"number {Number.nonFiniteText x} has no JSON representation"

theorem bind_eq_error {ε α β : Type} {x : Except ε α} {f : α → Except ε β} {e : ε}
    (h : x >>= f = .error e) : x = .error e ∨ ∃ a, x = .ok a ∧ f a = .error e := by
  cases x with
  | error e' => exact .inl (congrArg _ (Except.error.inj h))
  | ok a => exact .inr ⟨a, rfl, h⟩

theorem map_eq_error {ε α β : Type} {x : Except ε α} {f : α → β} {e : ε}
    (h : f <$> x = .error e) : x = .error e := by
  cases x with
  | error e' => exact congrArg _ (Except.error.inj h)
  | ok a => cases h

theorem itemsToJson_eq_error {path : String} {vs : List Value} {e : MarshalError} :
    ∀ {i : Nat}, itemsToJson path i vs = .error e → ∃ before v after, vs = before ++ v :: after ∧
      (∀ w ∈ before, ∃ path j, w.toJsonAt path = .ok j) ∧
      v.toJsonAt (itemPath path (i + before.length)) = .error e := by
  induction vs with
  | nil => exact fun h => nomatch h
  | cons v vs ih =>
    intro i h
    rw [itemsToJson] at h
    rcases bind_eq_error h with hv | ⟨j, hj, h⟩
    · exact ⟨[], v, vs, rfl, by simp, hv⟩
    · rcases bind_eq_error h with hrest | ⟨js, -, h⟩
      · obtain ⟨before, w, after, rfl, hbefore, hw⟩ := ih hrest
        refine ⟨v :: before, w, after, rfl, List.forall_mem_cons.2 ⟨⟨_, j, hj⟩, hbefore⟩, ?_⟩
        rwa [List.length_cons, ← Nat.add_assoc, Nat.add_right_comm]
      · cases h

theorem entriesToJson_eq_error {path : String} {es : List (String × Value)} {e : MarshalError} :
    entriesToJson path es = .error e → ∃ before k v after, es = before ++ (k, v) :: after ∧
      (∀ f ∈ before, ∃ path j, f.2.toJsonAt path = .ok j) ∧
      v.toJsonAt (fieldPath path k) = .error e := by
  induction es with
  | nil => exact fun h => nomatch h
  | cons f es ih =>
    intro h
    rw [entriesToJson] at h
    rcases bind_eq_error h with hv | ⟨j, hj, h⟩
    · exact ⟨[], f.1, f.2, es, rfl, by simp, hv⟩
    · rcases bind_eq_error h with hrest | ⟨fs, -, h⟩
      · obtain ⟨before, k, w, after, rfl, hbefore, hw⟩ := ih hrest
        exact ⟨f :: before, k, w, after, rfl,
          List.forall_mem_cons.2 ⟨⟨_, j, hj⟩, hbefore⟩, hw⟩
      · cases h

/-- An item is visited before those behind it. -/
theorem FirstNonFinite.array {before after : List Value} {v : Value} {p : Position} {x : Binary64}
    (h : v.FirstNonFinite p x) (hbefore : ∀ w ∈ before, ∃ path j, w.toJsonAt path = .ok j) :
    (array (before ++ v :: after)).FirstNonFinite (.item before.length :: p) x := by
  refine h.up (by simp [down?]) (fun y => nofun) fun step w hw hne => ?_
  cases step with
  | field key => cases hw
  | item i =>
    rcases Nat.lt_trichotomy i before.length with hlt | rfl | hgt
    · rw [down?, List.getElem?_append_left hlt] at hw
      exact .inl (hbefore w (List.mem_of_getElem? hw))
    · exact absurd rfl hne
    · exact .inr (.item hgt)

/-- A field is visited before those of greater keys. -/
theorem FirstNonFinite.fields {before after : List (String × Value)} {k : String} {v : Value}
    {p : Position} {x : Binary64} (h : v.FirstNonFinite p x)
    (sorted : Fields.Sorted (before ++ (k, v) :: after))
    (hbefore : ∀ f ∈ before, ∃ path j, f.2.toJsonAt path = .ok j) :
    (fields (before ++ (k, v) :: after)).FirstNonFinite (.field k :: p) x := by
  have hget : Fields.get? k (before ++ (k, v) :: after) = some v := sorted.get?_of_mem (by simp)
  refine h.up hget (fun y => nofun) fun step w hw hne => ?_
  cases step with
  | item i => cases hw
  | field l =>
    have hmem : (l, w) ∈ before ++ (k, v) :: after := Fields.mem_of_get? hw
    rcases List.mem_append.1 hmem with hmem | hmem
    · exact .inl (hbefore _ hmem)
    · rcases List.mem_cons.1 hmem with heq | hmem
      · cases heq
        exact absurd rfl hne
      · have hafter := (List.pairwise_append.1 sorted).2.1
        exact .inr (.field ((List.pairwise_cons.1 hafter).1 _ hmem))

/-- **A value without JSON is refused for its first number that is not finite.** -/
theorem toJsonAt_eq_error {v : Value} : v.Sorted → ∀ {path : String} {e : MarshalError},
    v.toJsonAt path = .error e → ∃ p x, v.FirstNonFinite p x ∧
      e = .unrepresentable (Position.textFrom path p) (nonFiniteReason x) := by
  induction v with
  | null | bool | int | uint | string =>
    intro _ path e h
    cases h
  | float x =>
    intro _ path e h
    rw [toJsonAt] at h
    split at h
    · cases h
    · next hx =>
      cases h
      refine ⟨[], x, ⟨rfl, by simpa using hx, fun q y hy _ hne => ?_⟩, rfl⟩
      cases q with
      | nil => exact absurd rfl hne
      | cons step q => cases hy
  | array items ih =>
    intro sorted path e h
    rw [Sorted, sortedItems_iff] at sorted
    rw [toJsonAt] at h
    obtain ⟨before, v, after, rfl, hbefore, hv⟩ := itemsToJson_eq_error (map_eq_error h)
    have hmem : v ∈ before ++ v :: after := by simp
    rw [Nat.zero_add, itemPath_eq] at hv
    obtain ⟨p, x, hfirst, rfl⟩ := ih v hmem (sorted v hmem) hv
    exact ⟨.item before.length :: p, x, hfirst.array hbefore, rfl⟩
  | fields entries ih =>
    intro sorted path e h
    rw [Sorted, sortedEntries_iff] at sorted
    rw [toJsonAt] at h
    obtain ⟨before, k, v, after, rfl, hbefore, hv⟩ := entriesToJson_eq_error (map_eq_error h)
    have hmem : (k, v) ∈ before ++ (k, v) :: after := by simp
    rw [fieldPath_eq] at hv
    obtain ⟨p, x, hfirst, rfl⟩ := ih (k, v) hmem (sorted.2 (k, v) hmem) hv
    exact ⟨.field k :: p, x, hfirst.fields sorted.1 hbefore, rfl⟩

/-- A value with a number that is not finite has no JSON. -/
theorem exists_error_of_nonFinite {v : Value} {p : Position} {x : Binary64}
    (hx : v.at? p = some (.float x)) (nonFinite : x.isFinite = false) :
    ∃ e, v.toJson = .error e := by
  cases h : v.toJson with
  | error e => exact ⟨e, rfl⟩
  | ok j =>
    rw [isFinite_of_toJsonAt h hx] at nonFinite
    cases nonFinite

theorem toJson_eq_error_iff {v : Value} (sorted : v.Sorted) {e : MarshalError} :
    v.toJson = .error e ↔ ∃ p x, v.FirstNonFinite p x ∧
      e = .unrepresentable p.text (nonFiniteReason x) := by
  refine ⟨toJsonAt_eq_error sorted, ?_⟩
  rintro ⟨p, x, hfirst, rfl⟩
  obtain ⟨e, he⟩ := exists_error_of_nonFinite hfirst.there hfirst.nonFinite
  obtain ⟨q, y, hq, rfl⟩ := toJsonAt_eq_error sorted he
  obtain ⟨rfl, rfl⟩ := hfirst.unique hq
  exact he

end Value

namespace CallArgs

theorem encode_eq_error_iff {args : CallArgs} {e : MarshalError} :
    args.encode = .error e ↔ args.toValue.toJson = .error e := by
  unfold encode
  cases args.toValue.toJson with
  | error e' =>
    constructor
    all_goals
      intro h
      cases h
      rfl
  | ok j => exact ⟨nofun, nofun⟩

end CallArgs

namespace Value

/-- **Numbers that are not finite are found and located.** A value has no JSON if and only if one
of its numbers is not finite; it is refused for the first one in order of visit, which is told with
its position. Positional arguments are refused as their array is, named ones as their object. -/
theorem locates :
    (∀ v : Value, v.Sorted →
      ((∃ e, v.toJson = .error e) ↔
        ∃ p x, v.at? p = some (.float x) ∧ (x.isNaN ∨ x.isInfinite)) ∧
      ∀ e, v.toJson = .error e ↔ ∃ p x, v.FirstNonFinite p x ∧
        e = .unrepresentable p.text
          s!"number {Number.nonFiniteText x} has no JSON representation") ∧
    (∀ (values : List Value) (e : MarshalError),
      (CallArgs.positional values).encode = .error e ↔ (array values).toJson = .error e) ∧
    ∀ (values : Dict String Value) (e : MarshalError),
      (CallArgs.named values).encode = .error e ↔ (fields values.fields).toJson = .error e := by
  refine ⟨fun v sorted => ⟨⟨?_, ?_⟩, fun e => toJson_eq_error_iff sorted⟩,
    fun values e => CallArgs.encode_eq_error_iff, fun values e => CallArgs.encode_eq_error_iff⟩
  · rintro ⟨e, he⟩
    obtain ⟨p, x, hfirst, -⟩ := (toJson_eq_error_iff sorted).1 he
    exact ⟨p, x, hfirst.there, Binary64.isFinite_eq_false.1 hfirst.nonFinite⟩
  · rintro ⟨p, x, hx, nonFinite⟩
    exact exists_error_of_nonFinite hx (Binary64.isFinite_eq_false.2 nonFinite)

/-- An object with three numbers that are not finite, the first one inside of an array. -/
def unbounded : Value :=
  .fields [("a", .array [.uint 1, .fields [("b", .null), ("c", .float ⟨0x7FF8000000000000⟩)],
    .float ⟨0x7FF0000000000000⟩]), ("z", .float ⟨0xFFF0000000000000⟩)]

theorem locates_unbounded :
    unbounded.Sorted ∧
      unbounded.toJson =
        .error (.unrepresentable "$.a[1].c" "number NaN has no JSON representation") ∧
      (∃ p x, unbounded.at? p = some (.float x) ∧ (x.isNaN ∨ x.isInfinite)) ∧
      ∃ p x, unbounded.FirstNonFinite p x ∧ p.text = "$.a[1].c" := by
  have sorted : unbounded.Sorted :=
    ⟨by decide, ⟨trivial, ⟨by decide, trivial, trivial, trivial⟩, trivial, trivial⟩, trivial,
      trivial⟩
  have refused : unbounded.toJson =
      .error (.unrepresentable "$.a[1].c" "number NaN has no JSON representation") := rfl
  obtain ⟨p, x, hfirst, herror⟩ := ((locates.1 unbounded sorted).2 _).1 refused
  refine ⟨sorted, refused, (locates.1 unbounded sorted).1.1 ⟨_, refused⟩, p, x, hfirst, ?_⟩
  simpa using (MarshalError.unrepresentable.inj herror).1.symm

end Value

end ModuleHost
