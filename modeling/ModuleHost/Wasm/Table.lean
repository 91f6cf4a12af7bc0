import ModuleHost.Wasm.Types
import Std.Data.TreeMap

/-!
# Tables

A table is a row of slots. A slot may hold a function of a store, given by its place; what was
never filled holds none.

* `Table` — the type of a table and what its slots hold;
* `Table.slot?`, `Table.fill` — the function in a slot; the table with a range of slots filled;
* `Table.of_slot?_fill` — what a table holds then.
-/

namespace ModuleHost.Wasm

/-- A table. References to values of the embedder are not told apart: there are none but those that
point to nothing. -/
structure Table where
  type : TableType
  /-- The places of the functions in the slots that hold one. -/
  slots : Std.TreeMap Nat Nat := ∅

namespace Table

/-- The number of slots. -/
def size (t : Table) : Nat := t.type.limits.min

/-- Whether a range of `n` slots lies inside. -/
def holds (t : Table) (start n : Nat) : Bool := start + n ≤ t.size

/-- The place of the function in a slot; none if the slot holds none or lies outside. -/
def slot? (t : Table) (i : Nat) : Option Nat := if i < t.size then t.slots[i]? else none

/-- The table with the slots from `start` on filled. -/
def fill (t : Table) (start : Nat) : List (Option Nat) → Table
  | [] => t
  | target :: targets =>
    { t with slots := t.slots.alter start fun _ => target }.fill (start + 1) targets

@[simp]
theorem type_fill (t : Table) (start : Nat) (targets : List (Option Nat)) :
    (t.fill start targets).type = t.type := by
  induction targets generalizing t start with
  | nil => rfl
  | cons target targets ih => exact ih _ _

/-- A function in a slot was put there or was there before. -/
theorem of_slot?_fill {t : Table} {start i place : Nat} {targets : List (Option Nat)}
    (h : (t.fill start targets).slot? i = some place) :
    some place ∈ targets ∨ t.slot? i = some place := by
  induction targets generalizing t start with
  | nil => exact .inr h
  | cons target targets ih =>
    rcases ih h with hmem | hslot
    · exact .inl (List.mem_cons_of_mem _ hmem)
    · rw [slot?] at hslot ⊢
      split at hslot
      · next hi =>
        rw [Std.TreeMap.getElem?_alter] at hslot
        split at hslot
        · exact .inl (hslot ▸ List.mem_cons_self)
        · exact .inr (by rw [if_pos (by exact hi)]; exact hslot)
      · cases hslot

end Table

end ModuleHost.Wasm
