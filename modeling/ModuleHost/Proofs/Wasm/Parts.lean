import Mathlib.Data.List.Forall2
import Mathlib.Data.Option.Basic
import ModuleHost.Proofs.Wasm.Tables
import ModuleHost.Wasm.Validation

/-!
# The parts of instances

A new instance consists of the parts that its imports name and of new ones behind those of the
store.

* `Module.Whole` — every function of a module has its code;
* `Instance.Has`, `Store.Holds` — a part belongs to an instance, is in a store;
* `Module.has_of_export` — an instance exports only what it has;
* `forall₂_of_link`, `function_of_link` — linking gives the parts that imports name;
* `holds_of_link` — these are there;
* **`Module.has_newInstance`**: a new instance has the parts that it imports and those that it adds;
* `Module.instances_allocate` — allocating a module adds its instance and no other.
-/

namespace ModuleHost.Wasm

variable {E : Embedding}

/-! ## Whole modules -/

/-- Every function that a module defines has its code. -/
def Module.Whole (m : Module) : Prop := m.codes.length = m.functions.length

theorem Module.whole_of_ofSections? {sections : List Section} {m : Module}
    (h : ofSections? sections = some m) : m.Whole := by
  simp only [ofSections?, Option.bind_eq_bind, Option.bind_eq_some_iff, Option.guard_eq_some',
    Option.pure_def, Option.some.injEq] at h
  obtain ⟨_, -, _, -, _, -, _, -, _, -, _, -, _, -, _, hlength, _, -, h⟩ := h
  obtain ⟨_, -, _, -, _, -, _, -, _, -, _, -, _, -, rfl⟩ := h
  exact hlength

theorem Module.whole_of_decode? {bytes : Bytes} {m : Module} (h : decode? bytes = some m) :
    m.Whole := by
  have hscan := (Option.filter_eq_some_iff.1 h).1
  unfold scan? at hscan
  split at hscan
  · split at hscan
    · exact whole_of_ofSections? hscan
    · cases hscan
  · cases hscan

theorem Module.valid_of_decode? {bytes : Bytes} {m : Module} (h : decode? bytes = some m) :
    m.isValid :=
  (Option.filter_eq_some_iff.1 h).2

/-! ## Parts -/

theorem getElem?_append_of_some {α : Type} {as bs : List α} {n : Nat} {a : α}
    (h : as[n]? = some a) : (as ++ bs)[n]? = some a :=
  (List.getElem?_append_left (List.getElem?_eq_some_iff.1 h).1).trans h

theorem getElem?_append_behind {α : Type} {as bs : List α} {n : Nat} :
    (as ++ bs)[as.length + n]? = bs[n]? := by
  rw [List.getElem?_append_right (Nat.le_add_right _ _), Nat.add_sub_cancel_left]

/-- An element of a list with one more at the end is that one or was there. -/
theorem getElem?_concat_cases {α : Type} {l : List α} {a b : α} {n : Nat}
    (h : (l ++ [a])[n]? = some b) : l[n]? = some b ∨ n = l.length ∧ b = a := by
  rcases Nat.lt_or_ge n l.length with hlt | hge
  · rw [List.getElem?_append_left hlt] at h
    exact .inl h
  · rw [List.getElem?_append_right hge, List.getElem?_singleton] at h
    split at h
    · exact .inr ⟨by omega, (Option.some.inj h).symm⟩
    · cases h

theorem getElem?_append_cases {α : Type} {as bs : List α} {a : α} {n : Nat}
    (h : (as ++ bs)[n]? = some a) : as[n]? = some a ∨ a ∈ bs := by
  rcases Nat.lt_or_ge n as.length with hlt | hge
  · exact .inl (List.getElem?_append_left hlt ▸ h)
  · exact .inr (List.mem_of_getElem? (List.getElem?_append_right hge ▸ h))

/-- A part belongs to an instance. -/
def Instance.Has (i : Instance) : Extern → Prop
  | .func place => place ∈ i.functions
  | .table place => place ∈ i.tables
  | .memory place => place ∈ i.memories
  | .global place => place ∈ i.globals

/-- A part is in a store. -/
def Store.Holds (s : Store E) : Extern → Prop
  | .func place => place < s.functions.length
  | .table place => place < s.tables.length
  | .memory place => place < s.memories.length
  | .global place => place < s.globals.length

theorem holds_of_provides {s : Store E} {m : Module} {wanted : ExternType} {part : Extern}
    (h : s.provides m wanted part) : s.Holds part := by
  unfold Store.provides at h
  split at h
  · split at h
    · next hf => exact (List.getElem?_eq_some_iff.1 hf).1
    · cases h
  all_goals first
    | cases h
    | (obtain ⟨_, hpart, -⟩ := (Option.any_eq_true _ _).1 h
       exact (List.getElem?_eq_some_iff.1 hpart).1)

theorem forall₂_of_mapM {α β : Type} {f : α → Option β} {as : List α} {bs : List β}
    (h : as.mapM f = some bs) : List.Forall₂ (fun a b => f a = some b) as bs := by
  induction as generalizing bs with
  | nil =>
    cases h
    exact .nil
  | cons a as ih =>
    simp only [List.mapM_cons, Option.pure_def, Option.bind_eq_bind, Option.bind_eq_some_iff,
      Option.some.injEq] at h
    obtain ⟨b, hf, bs, hbs, rfl⟩ := h
    exact .cons hf (ih hbs)

/-- Each part that linking gives is named by the import at its place and of its type. -/
theorem forall₂_of_link {m : Module} {s : Store E} {resolve : Import → Option Extern}
    {parts : List Extern} (h : m.link? s resolve = some parts) :
    List.Forall₂ (fun i part => resolve i = some part ∧ s.provides m i.type part) m.imports
      parts :=
  (forall₂_of_mapM h).imp fun _ _ => Option.filter_eq_some_iff.1

/-- A part that linking gives is named by an import and of its type. -/
theorem import_of_link {m : Module} {s : Store E} {resolve : Import → Option Extern}
    {parts : List Extern} (h : m.link? s resolve = some parts) {part : Extern}
    (hpart : part ∈ parts) :
    ∃ i ∈ m.imports, resolve i = some part ∧ s.provides m i.type part := by
  obtain ⟨hlength, hget⟩ := List.forall₂_iff_get.1 (forall₂_of_link h)
  obtain ⟨k, hk, rfl⟩ := List.getElem_of_mem hpart
  exact ⟨m.imports[k], List.getElem_mem (hlength ▸ hk), hget k (hlength ▸ hk) hk⟩

/-- The imports of functions. -/
def Module.functionImports (m : Module) : List Import :=
  m.imports.filterMap fun i => match i.type with
    | .func _ => some i
    | _ => none

theorem function_of_link {m : Module} {s : Store E} {resolve : Import → Option Extern}
    {parts : List Extern} (h : m.link? s resolve = some parts) {k : Nat} {i : Import}
    (hi : m.functionImports[k]? = some i) : ∃ place,
      (functionPlaces parts)[k]? = some place ∧ resolve i = some (.func place) ∧
        s.provides m i.type (.func place) := by
  have aligned : List.Forall₂
      (fun i place => resolve i = some (.func place) ∧ s.provides m i.type (.func place))
      m.functionImports (functionPlaces parts) := by
    refine List.rel_filterMap (fun i part hpart => ?_) (forall₂_of_link h)
    obtain ⟨module, name, type⟩ := i
    cases type <;> cases part <;>
      first
        | exact .none
        | exact .some hpart
        | exact absurd hpart.2 (by simp [Store.provides])
  obtain ⟨hlength, hget⟩ := List.forall₂_iff_get.1 aligned
  obtain ⟨hk, rfl⟩ := List.getElem?_eq_some_iff.1 hi
  exact ⟨_, List.getElem?_eq_getElem (hlength ▸ hk), hget k hk (hlength ▸ hk)⟩

theorem holds_of_link {m : Module} {s : Store E} {resolve : Import → Option Extern}
    {parts : List Extern} (h : m.link? s resolve = some parts) {part : Extern}
    (hpart : part ∈ parts) : s.Holds part := by
  obtain ⟨_, -, -, provides⟩ := import_of_link h hpart
  exact holds_of_provides provides

namespace Module

theorem has_of_exported {i : Instance} {e : Export} {name : String} {part : Extern}
    (h : exported? i e = some (name, part)) : i.Has part := by
  unfold exported? at h
  obtain ⟨part', hpart, hname⟩ := Option.map_eq_some_iff.1 h
  cases hname
  cases hkind : e.kind with
  | tag =>
    rw [hkind] at hpart
    cases hpart
  | func | table | memory | global =>
    rw [hkind] at hpart
    obtain ⟨place, hplace, rfl⟩ := Option.map_eq_some_iff.1 hpart
    exact List.mem_of_getElem? hplace

theorem has_of_export {m : Module} {s : Store E} {parts : List Extern} {name : String}
    {part : Extern} (h : (m.newInstance s parts).export? name = some part) :
    (m.newInstance s parts).Has part := by
  obtain ⟨_, _, hexports, -⟩ := List.lookup_eq_some_iff.1 h
  have hmem : (name, part) ∈ (m.newInstance s parts).exports := by
    rw [hexports]
    simp
  obtain ⟨e, -, he⟩ := List.mem_filterMap.1 hmem
  exact has_of_exported he

/-- A part is one of those that a module adds to a store. -/
def Adds (m : Module) (s : Store E) : Extern → Prop
  | .func place => place ∈ newPlaces s.functions m.functions.length
  | .table place => place ∈ newPlaces s.tables m.tables.length
  | .memory place => place ∈ newPlaces s.memories m.memories.length
  | .global place => place ∈ newPlaces s.globals m.globals.length

variable {m : Module} {s : Store E} {parts : List Extern}

theorem mem_parts {part : Extern} :
    part ∈ parts ↔ match part with
      | .func place => place ∈ functionPlaces parts
      | .table place => place ∈ tablePlaces parts
      | .memory place => place ∈ memoryPlaces parts
      | .global place => place ∈ globalPlaces parts := by
  constructor
  · intro h
    cases part <;> exact List.mem_filterMap.2 ⟨_, h, rfl⟩
  · intro h
    cases part with
    | func | table | memory | global =>
      obtain ⟨part, hpart, hplace⟩ := List.mem_filterMap.1 h
      cases part <;> cases hplace
      exact hpart

/-- **A new instance has the parts that it imports and those that it adds.** -/
theorem has_newInstance (part : Extern) :
    (m.newInstance s parts).Has part ↔ part ∈ parts ∨ m.Adds s part := by
  rw [mem_parts]
  cases part with
  | func | table | memory | global => exact List.mem_append

theorem mem_newPlaces {α : Type} {present : List α} {n place : Nat} :
    place ∈ newPlaces present n ↔ present.length ≤ place ∧ place < present.length + n := by
  simp only [newPlaces, List.mem_map, List.mem_range]
  constructor
  · rintro ⟨k, hk, rfl⟩
    omega
  · rintro ⟨hle, hlt⟩
    exact ⟨place - present.length, by omega, by omega⟩

theorem not_holds_of_adds (part : Extern) (h : m.Adds s part) : ¬ s.Holds part := by
  cases part with
  | func | table | memory | global => exact Nat.not_lt_of_le (mem_newPlaces.1 h).1

theorem length_newFunctions (whole : m.Whole) (home : Nat) :
    (m.newFunctions home : List (FunctionInstance E)).length = m.functions.length := by
  rw [newFunctions, List.length_map, List.length_zip, whole, Nat.min_self]

theorem holds_of_adds (whole : m.Whole) {part : Extern} (h : m.Adds s part) :
    (m.allocate parts s).Holds part := by
  cases part with
  | func place =>
    have hlt := (mem_newPlaces.1 h).2
    rwa [← length_newFunctions whole s.instances.length, ← List.length_append] at hlt
  | table place =>
    have hlt := (mem_newPlaces.1 h).2
    rwa [← length_newTables m] at hlt
  | memory place =>
    have hlt := (mem_newPlaces.1 h).2
    rwa [← List.length_map (f := fun l : Limits => (⟨l.min, l.max, l.shared, ∅⟩ : Memory)),
      ← List.length_append] at hlt
  | global place =>
    have hlt := (mem_newPlaces.1 h).2
    rwa [← List.length_map (f := fun g : GlobalType × ConstExpr =>
        (⟨g.1, g.2.value s (globalPlaces parts), g.2.target? s (m.newInstance s parts)⟩ : Global)),
      ← List.length_append] at hlt

theorem holds_allocate (part : Extern) (h : s.Holds part) : (m.allocate parts s).Holds part := by
  cases part with
  | func | table | memory | global =>
    exact Nat.lt_of_lt_of_le h (by simp [allocate, length_newTables])

theorem functions_allocate {place : Nat} {f : FunctionInstance E}
    (h : s.functions[place]? = some f) : (m.allocate parts s).functions[place]? = some f :=
  getElem?_append_of_some h

theorem holds_newInstance (whole : m.Whole) (there : ∀ part ∈ parts, s.Holds part) (part : Extern)
    (h : (m.newInstance s parts).Has part) : (m.allocate parts s).Holds part := by
  rcases (has_newInstance part).1 h with hpart | hnew
  · exact holds_allocate part (there part hpart)
  · exact holds_of_adds whole hnew

theorem instances_allocate {home : Nat} {i : Instance}
    (h : (m.allocate parts s).instances[home]? = some i) :
    s.instances[home]? = some i ∨ home = s.instances.length ∧ i = m.newInstance s parts :=
  getElem?_concat_cases h

/-- A function that is new in a store is guest code of the new instance. -/
theorem guest_of_new {place : Nat} (hnew : ¬ place < s.functions.length) {f : FunctionInstance E}
    (h : (m.allocate parts s).functions[place]? = some f) :
    ∃ type code kept, f = .guest type s.instances.length code kept := by
  change (s.functions ++ m.newFunctions s.instances.length)[place]? = some f at h
  rw [List.getElem?_append_right (Nat.le_of_not_lt hnew)] at h
  obtain ⟨_, -, rfl⟩ := List.mem_map.1 (List.mem_of_getElem? h)
  exact ⟨_, _, _, rfl⟩

end Module

end ModuleHost.Wasm
