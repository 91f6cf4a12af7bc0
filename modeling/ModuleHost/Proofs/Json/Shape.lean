import Mathlib.Data.List.Forall2
import Mathlib.Data.List.Induction
import ModuleHost.Json.Basic

/-!
# The shape of a value

* `Json.induct` — induction over a value, its items and the values of its members;
* `Json.depth` — the greatest number of brackets open at one point of the value;
* `Json.Integral` — every number in the value is an integer;
* `Json.normal` — the value with the members of its objects sorted;
* `Sorted.normal_eq` — a sorted value is in normal form.
-/

namespace ModuleHost

/-! ## Lists in step -/

theorem exists_forall₂ {α β : Type*} {R : α → β → Prop} {as : List α} (h : ∀ a ∈ as, ∃ b, R a b) :
    ∃ bs, List.Forall₂ R as bs := by
  induction as with
  | nil => exact ⟨[], .nil⟩
  | cons a as ih =>
    obtain ⟨b, hb⟩ := h a List.mem_cons_self
    obtain ⟨bs, hbs⟩ := ih fun a' ha' => h a' (List.mem_cons_of_mem _ ha')
    exact ⟨b :: bs, .cons hb hbs⟩

theorem exists_mem_of_forall₂ {α β : Type*} {R : α → β → Prop} {as : List α} {bs : List β}
    (h : List.Forall₂ R as bs) : ∀ b ∈ bs, ∃ a ∈ as, R a b := by
  induction h with
  | nil => simp
  | cons hab _ ih =>
    intro b hb
    rcases List.mem_cons.1 hb with rfl | hb
    · exact ⟨_, List.mem_cons_self, hab⟩
    · obtain ⟨a, ha, hab⟩ := ih b hb
      exact ⟨a, List.mem_cons_of_mem _ ha, hab⟩

namespace Json

/-- Induction over a value: what its items or the values of its members have, it has. -/
@[induction_eliminator]
theorem induct {motive : Json → Prop} (null : motive .null) (bool : ∀ b, motive (.bool b))
    (number : ∀ n, motive (.number n)) (string : ∀ s, motive (.string s))
    (array : ∀ items, (∀ j ∈ items, motive j) → motive (.array items))
    (fields : ∀ entries, (∀ e ∈ entries, motive e.2) → motive (.fields entries)) :
    (j : Json) → motive j
  | .null => null
  | .bool b => bool b
  | .number n => number n
  | .string s => string s
  | .array items =>
    array items fun j _ => induct null bool number string array fields j
  | .fields entries =>
    fields entries fun e _ => induct null bool number string array fields e.2
decreasing_by
  · have := List.sizeOf_lt_of_mem ‹_ ∈ items›
    simp only [Json.array.sizeOf_spec]
    omega
  · have := List.sizeOf_lt_of_mem ‹_ ∈ entries›
    obtain ⟨k, j⟩ := e
    simp only [Json.fields.sizeOf_spec, Prod.mk.sizeOf_spec] at this ⊢
    omega

mutual

/-- The greatest number of brackets that are open at one point. -/
def depth : Json → Nat
  | .array items => depthItems items + 1
  | .fields entries => depthEntries entries + 1
  | _ => 0

/-- The greatest depth of the items. -/
def depthItems : List Json → Nat
  | [] => 0
  | j :: js => max (depth j) (depthItems js)

/-- The greatest depth of the members. -/
def depthEntries : List (String × Json) → Nat
  | [] => 0
  | (_, j) :: es => max (depth j) (depthEntries es)

end

mutual

/-- Every number in the value is an integer. -/
def Integral : Json → Prop
  | .number (.float _ _) => False
  | .array items => IntegralItems items
  | .fields entries => IntegralEntries entries
  | _ => True

/-- Every number in the items is an integer. -/
def IntegralItems : List Json → Prop
  | [] => True
  | j :: js => Integral j ∧ IntegralItems js

/-- Every number in the members is an integer. -/
def IntegralEntries : List (String × Json) → Prop
  | [] => True
  | (_, j) :: es => Integral j ∧ IntegralEntries es

end

mutual

/-- The value with the members of every object sorted, the last of each key staying. -/
def normal : Json → Json
  | .array items => .array (normalItems items)
  | .fields entries => .object (normalEntries entries)
  | j => j

/-- The items with the members of every object sorted. -/
def normalItems : List Json → List Json
  | [] => []
  | j :: js => normal j :: normalItems js

/-- The members with the members of every object in them sorted. -/
def normalEntries : List (String × Json) → List (String × Json)
  | [] => []
  | (k, j) :: es => (k, normal j) :: normalEntries es

end

/-! ## Items and members -/

theorem depthItems_le {d : Nat} {items : List Json} :
    depthItems items ≤ d ↔ ∀ j ∈ items, j.depth ≤ d := by
  induction items with
  | nil => simp [depthItems]
  | cons j js ih => rw [depthItems, Nat.max_le, ih, List.forall_mem_cons]

theorem depthEntries_le {d : Nat} {entries : List (String × Json)} :
    depthEntries entries ≤ d ↔ ∀ e ∈ entries, e.2.depth ≤ d := by
  induction entries with
  | nil => simp [depthEntries]
  | cons e es ih => rw [depthEntries, Nat.max_le, ih, List.forall_mem_cons]

theorem integralItems_iff {items : List Json} :
    IntegralItems items ↔ ∀ j ∈ items, j.Integral := by
  induction items with
  | nil => simp [IntegralItems]
  | cons j js ih => simp [IntegralItems, ih]

theorem integralEntries_iff {entries : List (String × Json)} :
    IntegralEntries entries ↔ ∀ e ∈ entries, e.2.Integral := by
  induction entries with
  | nil => simp [IntegralEntries]
  | cons e es ih => simp [IntegralEntries, ih]

theorem sortedItems_iff {items : List Json} : SortedItems items ↔ ∀ j ∈ items, j.Sorted := by
  induction items with
  | nil => simp [SortedItems]
  | cons j js ih => simp [SortedItems, ih]

theorem sortedEntries_iff {entries : List (String × Json)} :
    SortedEntries entries ↔ ∀ e ∈ entries, e.2.Sorted := by
  induction entries with
  | nil => simp [SortedEntries]
  | cons e es ih => simp [SortedEntries, ih]

theorem normalItems_eq (items : List Json) : normalItems items = items.map normal := by
  induction items with
  | nil => rfl
  | cons j js ih => rw [normalItems, ih, List.map_cons]

theorem normalEntries_eq (entries : List (String × Json)) :
    normalEntries entries = entries.map fun e => (e.1, e.2.normal) := by
  induction entries with
  | nil => rfl
  | cons e es ih => rw [normalEntries, ih, List.map_cons]

end Json

/-! ## Normal forms -/

namespace Fields

variable {κ α : Type} [Ord κ]

theorem insert_of_lt [Std.OrientedOrd κ] {k : κ} (a : α) {fs : Fields κ α}
    (h : ∀ e ∈ fs, compare e.1 k = .lt) : insert k a fs = fs ++ [(k, a)] := by
  induction fs with
  | nil => rfl
  | cons f fs ih =>
    obtain ⟨k', b⟩ := f
    have hk : compare k k' = .gt := Std.OrientedCmp.gt_of_lt (h _ List.mem_cons_self)
    rw [insert, hk]
    exact congrArg _ (ih fun e he => h e (List.mem_cons_of_mem _ he))

theorem ofList_append_singleton (fs : List (κ × α)) (e : κ × α) :
    ofList (fs ++ [e]) = insert e.1 e.2 (ofList fs) := by
  rw [ofList, List.foldl_append]
  rfl

theorem Sorted.ofList_eq [Std.OrientedOrd κ] {fs : Fields κ α} (h : fs.Sorted) :
    ofList fs = fs := by
  induction fs using List.reverseRecOn with
  | nil => rfl
  | append_singleton fs e ih =>
    obtain ⟨hfs, -, hlast⟩ := List.pairwise_append.1 h
    rw [ofList_append_singleton, ih hfs]
    exact insert_of_lt e.2 fun e' he' => hlast e' he' e (List.mem_singleton.2 rfl)

end Fields

namespace Json

theorem Sorted.normal_eq {j : Json} (h : j.Sorted) : j.normal = j := by
  induction j with
  | null | bool | number | string => rw [normal] <;> simp
  | array items ih =>
    rw [Sorted, sortedItems_iff] at h
    have hmap : items.map normal = items.map id := List.map_congr_left fun j hj => ih j hj (h j hj)
    rw [normal, normalItems_eq, hmap, List.map_id]
  | fields entries ih =>
    rw [Sorted, sortedEntries_iff] at h
    have hmap : (entries.map fun e => (e.1, e.2.normal)) = entries.map id :=
      List.map_congr_left fun e he => by rw [ih e he (h.2 e he), id]
    rw [normal, normalEntries_eq, hmap, List.map_id, object, h.1.ofList_eq]

end Json

end ModuleHost
