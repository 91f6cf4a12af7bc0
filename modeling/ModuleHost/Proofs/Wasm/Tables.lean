import ModuleHost.Proofs.Wasm.Invariant

/-!
# What tables hold

Tables get functions when a module is instantiated, those that the new instance can name.

* `Instance.Names` — an instance has a function, or one of its globals points to it;
* `Table.Fed` — a table after an instance put functions into it;
* `Module.length_newTables`, **`Module.fed_of_newTables`**: the tables after an instantiation are
  those before, fed, and the new ones.
-/

namespace ModuleHost.Wasm

variable {E : Embedding} {s : Store E} {home : Instance}

/-- An initial value of an instance can point to the function at a place: the instance has it, or
one of its globals points to it. -/
def Instance.Names (home : Instance) (s : Store E) (place : Nat) : Prop :=
  place ∈ home.functions ∨
    ∃ i ∈ home.globals, ∃ global, s.globals[i]? = some global ∧ global.target = some place

theorem ConstExpr.names_of_target? {e : ConstExpr} {place : Nat}
    (h : e.target? s home = some place) : home.Names s place := by
  obtain ⟨op, -, hop⟩ := Option.bind_eq_some_iff.1 h
  cases op with
  | function i => exact .inl (List.mem_of_getElem? hop)
  | global i =>
    obtain ⟨global, hglobal, htarget⟩ := Option.bind_eq_some_iff.1 hop
    obtain ⟨g, hg, hglobal⟩ := Option.bind_eq_some_iff.1 hglobal
    exact .inr ⟨g, List.mem_of_getElem? hg, global, hglobal, htarget⟩
  | number | null | arith => cases hop

/-- The table `new` at a place is `old` after an instance put functions into it, which it did only
if it has the table. -/
structure Table.Fed (s : Store E) (home : Instance) (place : Nat) (old new : Table) : Prop where
  type : new.type = old.type
  holds : ∀ f, new.Has f → old.Has f ∨ place ∈ home.tables ∧ home.Names s f

namespace Table.Fed

variable {place : Nat} {old mid new : Table}

theorem refl (t : Table) : Fed s home place t t := ⟨rfl, fun _ => .inl⟩

theorem trans (h : Fed s home place old mid) (h' : Fed s home place mid new) :
    Fed s home place old new :=
  ⟨h'.type.trans h.type, fun f hf => (h'.holds f hf).elim (h.holds f) .inr⟩

end Table.Fed

namespace ElementSegment

variable {tables : List Table}

theorem length_fill (e : ElementSegment) : (e.fill s home tables).length = tables.length := by
  unfold fill
  split
  · rfl
  · exact List.length_modify ..

theorem mem_tables_of_range? {e : ElementSegment} {place start : Nat}
    (h : e.range? s home = some (place, start)) : place ∈ home.tables := by
  obtain ⟨⟨table, offset⟩, -, h⟩ := Option.bind_eq_some_iff.1 h
  obtain ⟨place', hplace, h⟩ := Option.bind_eq_some_iff.1 h
  cases h
  exact List.mem_of_getElem? hplace

theorem fed_of_fill {e : ElementSegment} {place : Nat} {t : Table}
    (h : (e.fill s home tables)[place]? = some t) :
    ∃ old, tables[place]? = some old ∧ Table.Fed s home place old t := by
  unfold fill at h
  split at h
  · exact ⟨t, h, .refl t⟩
  · next start hrange =>
    rw [List.getElem?_modify, Option.map_eq_map] at h
    obtain ⟨old, hold, rfl⟩ := Option.map_eq_some_iff.1 h
    refine ⟨old, hold, ?_⟩
    split
    · next heq =>
      refine ⟨Table.type_fill .., fun f ⟨slot, hslot⟩ => ?_⟩
      rcases Table.of_slot?_fill hslot with hmem | hold
      · obtain ⟨item, -, htarget⟩ := List.mem_map.1 hmem
        exact .inr ⟨heq ▸ mem_tables_of_range? hrange, ConstExpr.names_of_target? htarget⟩
      · exact .inl ⟨slot, hold⟩
    · exact .refl old

end ElementSegment

namespace Module

theorem length_newTables (m : Module) :
    (m.newTables s home).length = s.tables.length + m.tables.length := by
  have hfold (es : List ElementSegment) (tables : List Table) :
      (es.foldl (ElementSegment.fill s home) tables).length = tables.length := by
    induction es generalizing tables with
    | nil => rfl
    | cons e es ih => exact (ih _).trans e.length_fill
  rw [newTables, hfold, List.length_append, List.length_map]

/-- **After an instantiation a table holds what it held and what the new instance put there.** -/
theorem fed_of_newTables {m : Module} {place : Nat} {t : Table}
    (h : (m.newTables s home)[place]? = some t) :
    ∃ old, (s.tables ++ m.tables.map fun t => { type := t })[place]? = some old ∧
      Table.Fed s home place old t := by
  have hfold (es : List ElementSegment) (tables : List Table)
      (h : (es.foldl (ElementSegment.fill s home) tables)[place]? = some t) :
      ∃ old, tables[place]? = some old ∧ Table.Fed s home place old t := by
    induction es generalizing tables with
    | nil => exact ⟨t, h, .refl t⟩
    | cons e es ih =>
      obtain ⟨mid, hmid, fed⟩ := ih _ h
      obtain ⟨old, hold, fed'⟩ := ElementSegment.fed_of_fill hmid
      exact ⟨old, hold, fed'.trans fed⟩
  exact hfold _ _ h

theorem type_of_newTables {m : Module} {place : Nat} {old : Table}
    (h : (s.tables ++ m.tables.map fun t => { type := t })[place]? = some old) :
    ∃ t, (m.newTables s home)[place]? = some t ∧ t.type = old.type := by
  have hlt : place < (m.newTables s home).length := by
    have hlt := (List.getElem?_eq_some_iff.1 h).1
    rwa [List.length_append, List.length_map, ← length_newTables m] at hlt
  obtain ⟨old', hold, fed⟩ := fed_of_newTables (List.getElem?_eq_getElem hlt)
  obtain rfl : old' = old := Option.some.inj (hold.symm.trans h)
  exact ⟨_, List.getElem?_eq_getElem hlt, fed.type⟩

/-- A table that is new holds nothing but what the new instance put there. -/
theorem not_has_of_new {type : TableType} {f : Nat} : ¬ Table.Has { type := type } f := by
  rintro ⟨slot, hslot⟩
  simp [Table.slot?] at hslot

end Module

end ModuleHost.Wasm
