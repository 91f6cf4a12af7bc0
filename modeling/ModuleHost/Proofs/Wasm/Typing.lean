import ModuleHost.Proofs.Wasm.Invariant
import ModuleHost.Proofs.Wasm.Parts

/-!
# Types of exports

A module tells the types of what it exports before it is instantiated. Its instance exports parts
of these types, and they keep them.

* `PartType`, `PartType.admits` — the type of a part; whether one may stand for another;
* `Store.Fits` — a part of a store is of a type; `provides_iff` — so linking asks;
* `Module.partType?`, `Module.exportType?` — the types that a module gives its parts and exports;
* `Store.Keeps`, `Store.Fits.keep` — parts keep their types while memories grow;
* `Instance.Typed` — the exports of an instance are those of a module, at their types;
* **`Module.typed_newInstance`**: a new instance of a valid module is typed.
-/

namespace ModuleHost.Wasm

variable {E : Embedding}

/-! ## Types of parts -/

/-- The type of a part of an instance. -/
inductive PartType where
  | func (type : FuncType)
  | table (type : TableType)
  | memory (limits : Limits)
  | global (type : GlobalType)
  deriving DecidableEq, Repr

/-- The kind of parts of a type. -/
def PartType.kind : PartType → ExternKind
  | .func _ => .func
  | .table _ => .table
  | .memory _ => .memory
  | .global _ => .global

/-- Whether a part is a memory that may pass between threads. -/
def PartType.isShared : PartType → Bool
  | .memory limits => limits.shared
  | .func _ | .table _ | .global _ => false

/-- Whether a part of one type may stand where another is wanted. -/
def PartType.admits : PartType → PartType → Bool
  | .func wanted, .func given => given = wanted
  | .table wanted, .table given =>
    given.element = wanted.element && wanted.limits.admits given.limits.min given.limits.max
  | .memory wanted, .memory given =>
    given.shared = wanted.shared && wanted.admits given.min given.max
  | .global wanted, .global given => given = wanted
  | _, _ => false

/-- A part of a store is of a type; memories may have grown. -/
def Store.Fits (s : Store E) : PartType → Extern → Prop
  | .func type, .func place => ∃ f, s.functions[place]? = some f ∧ f.type = type
  | .table type, .table place => ∃ t, s.tables[place]? = some t ∧
      t.type.element = type.element ∧ type.limits.admits t.size t.type.limits.max
  | .memory limits, .memory place => ∃ memory, s.memories[place]? = some memory ∧
      memory.shared = limits.shared ∧ limits.admits memory.pages memory.max
  | .global type, .global place => ∃ g, s.globals[place]? = some g ∧ g.type = type
  | _, _ => False

namespace Module

/-- The type that an import of a module asks for. -/
def typeOf? (m : Module) : ExternType → Option PartType
  | .func type => m.types[type]?.map .func
  | .table type => some (.table type)
  | .memory limits => some (.memory limits)
  | .global type => some (.global type)
  | .tag _ => none

/-- The type of the part of a kind with a number. -/
def partType? (m : Module) : ExternKind → Nat → Option PartType
  | .func, k => (m.functionTypes?.getD [])[k]?.map .func
  | .table, k => m.tableTypes[k]?.map .table
  | .memory, k => m.memoryTypes[k]?.map .memory
  | .global, k => m.globalTypes[k]?.map .global
  | .tag, _ => none

/-- The type under which a module exports a name. -/
def exportType? (m : Module) (name : String) : Option PartType :=
  (m.exports.find? (·.name = name)).bind fun e => m.partType? e.kind e.index

end Module

theorem provides_iff {s : Store E} {m : Module} {wanted : ExternType} {part : Extern} :
    s.provides m wanted part ↔ ∃ type, m.typeOf? wanted = some type ∧ s.Fits type part := by
  cases wanted with
  | func index =>
    cases part with
    | func place =>
      simp only [Store.provides, Module.typeOf?]
      cases m.types[index]? with
      | none => simp
      | some type => cases hf : s.functions[place]? <;> simp [Store.Fits, hf]
    | table | memory | global => simp [Store.provides, Module.typeOf?, Store.Fits]
  | table type =>
    cases part <;> simp [Store.provides, Module.typeOf?, Store.Fits, Option.any_eq_true]
  | memory limits =>
    cases part <;> simp [Store.provides, Module.typeOf?, Store.Fits, Option.any_eq_true]
  | global type =>
    cases part <;> simp [Store.provides, Module.typeOf?, Store.Fits, Option.any_eq_true]
  | tag => cases part <;> simp [Store.provides, Module.typeOf?]

theorem Limits.admits_trans {wanted given : Limits} {min : Nat} {max : Option Nat}
    (h : wanted.admits given.min given.max) (h' : given.admits min max) : wanted.admits min max := by
  unfold Limits.admits at h h' ⊢
  simp only [Bool.and_eq_true, decide_eq_true_eq, Option.all_eq_true,
    Option.any_eq_true] at h h' ⊢
  obtain ⟨hmin, hmax⟩ := h
  obtain ⟨hmin', hmax'⟩ := h'
  refine ⟨Nat.le_trans hmin hmin', fun most hmost => ?_⟩
  obtain ⟨most', hmost', hle⟩ := hmax most hmost
  obtain ⟨most'', hmost'', hle'⟩ := hmax' most' hmost'
  exact ⟨most'', hmost'', by omega⟩

theorem Limits.admits_self {limits : Limits} {min : Nat} (h : limits.min ≤ min) :
    limits.admits min limits.max := by
  unfold Limits.admits
  simp only [Bool.and_eq_true, decide_eq_true_eq, Option.all_eq_true,
    Option.any_eq_true]
  exact ⟨h, fun most hmost => ⟨most, hmost, Nat.le_refl most⟩⟩

/-- A part of a type may stand where a type that admits it is wanted. -/
theorem Store.Fits.admits {s : Store E} {wanted given : PartType} {part : Extern}
    (h : s.Fits given part) (hadmits : wanted.admits given) : s.Fits wanted part := by
  cases given with
  | func type =>
    cases wanted <;> simp only [PartType.admits, Bool.false_eq_true, decide_eq_true_eq] at hadmits
    exact hadmits ▸ h
  | global type =>
    cases wanted <;> simp only [PartType.admits, Bool.false_eq_true, decide_eq_true_eq] at hadmits
    exact hadmits ▸ h
  | table type =>
    cases wanted <;> simp only [PartType.admits, Bool.false_eq_true, Bool.and_eq_true,
      decide_eq_true_eq] at hadmits
    cases part with
    | table place =>
      obtain ⟨t, ht, helement, hadmit⟩ := h
      exact ⟨t, ht, helement.trans hadmits.1, Limits.admits_trans hadmits.2 hadmit⟩
    | func | memory | global => exact h.elim
  | memory limits =>
    cases wanted <;> simp only [PartType.admits, Bool.false_eq_true, Bool.and_eq_true,
      decide_eq_true_eq] at hadmits
    cases part with
    | memory place =>
      obtain ⟨memory, hmemory, hshared, hadmit⟩ := h
      exact ⟨memory, hmemory, hshared.trans hadmits.1, Limits.admits_trans hadmits.2 hadmit⟩
    | func | table | global => exact h.elim

/-! ## Parts keep their types -/

/-- What is in a store stays there at its type; memories may grow. -/
structure Store.Keeps (s s' : Store E) : Prop where
  functions : ∀ (place : Nat) f, s.functions[place]? = some f → s'.functions[place]? = some f
  tables : ∀ (place : Nat) t, s.tables[place]? = some t →
    ∃ t', s'.tables[place]? = some t' ∧ t'.type = t.type
  memories : ∀ (place : Nat) m, s.memories[place]? = some m →
    ∃ m', s'.memories[place]? = some m' ∧ m'.Follows m
  globals : ∀ (place : Nat) g, s.globals[place]? = some g →
    ∃ g', s'.globals[place]? = some g' ∧ g'.type = g.type

theorem Store.Fits.keep {s s' : Store E} {type : PartType} {part : Extern} (h : s.Fits type part)
    (hs : s.Keeps s') : s'.Fits type part := by
  cases type with
  | func type =>
    cases part with
    | func place =>
      obtain ⟨f, hf, htype⟩ := h
      exact ⟨f, hs.functions place f hf, htype⟩
    | table | memory | global => exact h.elim
  | table type =>
    cases part with
    | table place =>
      obtain ⟨t, ht, hadmits⟩ := h
      obtain ⟨t', ht', htype⟩ := hs.tables place t ht
      refine ⟨t', ht', ?_⟩
      rwa [Table.size, htype]
    | func | memory | global => exact h.elim
  | memory limits =>
    cases part with
    | memory place =>
      obtain ⟨m, hm, hshared, hadmit⟩ := h
      obtain ⟨m', hm', follows⟩ := hs.memories place m hm
      have hgrown : Limits.admits ⟨m.pages, m.max, m.shared, 0⟩ m'.pages m'.max :=
        follows.max ▸ Limits.admits_self follows.pages
      exact ⟨m', hm', follows.shared.trans hshared, Limits.admits_trans hadmit hgrown⟩
    | func | table | global => exact h.elim
  | global type =>
    cases part with
    | global place =>
      obtain ⟨g, hg, htype⟩ := h
      obtain ⟨g', hg', htype'⟩ := hs.globals place g hg
      exact ⟨g', hg', htype'.trans htype⟩
    | func | table | memory => exact h.elim

theorem Store.Keeps.trans {s s' s'' : Store E} (h : s.Keeps s') (h' : s'.Keeps s'') :
    s.Keeps s'' where
  functions place f hf := h'.functions place f (h.functions place f hf)
  tables place t ht := by
    obtain ⟨t', ht', htype⟩ := h.tables place t ht
    obtain ⟨t'', ht'', htype'⟩ := h'.tables place t' ht'
    exact ⟨t'', ht'', htype'.trans htype⟩
  memories place m hm := by
    obtain ⟨m', hm', follows⟩ := h.memories place m hm
    obtain ⟨m'', hm'', follows'⟩ := h'.memories place m' hm'
    exact ⟨m'', hm'', follows.trans follows'⟩
  globals place g hg := by
    obtain ⟨g', hg', htype⟩ := h.globals place g hg
    obtain ⟨g'', hg'', htype'⟩ := h'.globals place g' hg'
    exact ⟨g'', hg'', htype'.trans htype⟩

theorem keeps_allocate (m : Module) (parts : List Extern) (s : Store E) :
    s.Keeps (m.allocate parts s) where
  functions _ _ hf := getElem?_append_of_some hf
  tables _ _ ht := Module.type_of_newTables (getElem?_append_of_some ht)
  memories _ memory hm := ⟨memory, getElem?_append_of_some hm, .refl memory⟩
  globals _ g hg := ⟨g, getElem?_append_of_some hg, rfl⟩

/-! ## Typed instances -/

/-- The part of a kind with a number. -/
def Instance.part? (i : Instance) : ExternKind → Nat → Option Extern
  | .func, k => i.functions[k]?.map .func
  | .table, k => i.tables[k]?.map .table
  | .memory, k => i.memories[k]?.map .memory
  | .global, k => i.globals[k]?.map .global
  | .tag, _ => none

/-- The exports of an instance are those of a module, at their types. -/
def Instance.Typed (i : Instance) (m : Module) (s : Store E) : Prop :=
  ∀ name, Option.Rel s.Fits (m.exportType? name) (i.export? name)

section

variable {i : Instance} {m : Module} {s : Store E} {name : String}

theorem Instance.Typed.keep {s' : Store E} (h : i.Typed m s) (hs : s.Keeps s') :
    i.Typed m s' := by
  intro name
  have hname := h name
  revert hname
  generalize m.exportType? name = type
  generalize i.export? name = part
  rintro (⟨fits⟩ | -)
  · exact .some (fits.keep hs)
  · exact .none

theorem Instance.Typed.of_exportType? (h : i.Typed m s) {type : PartType}
    (ht : m.exportType? name = some type) :
    ∃ part, i.export? name = some part ∧ s.Fits type part := by
  have hname := h name
  rw [ht] at hname
  generalize i.export? name = part at hname
  cases hname with
  | some fits => exact ⟨_, rfl, fits⟩

theorem Instance.Typed.of_export? (h : i.Typed m s) {part : Extern}
    (hp : i.export? name = some part) :
    ∃ type, m.exportType? name = some type ∧ s.Fits type part := by
  have hname := h name
  rw [hp] at hname
  generalize m.exportType? name = type at hname
  cases hname with
  | some fits => exact ⟨_, rfl, fits⟩

end

namespace Module

variable {m : Module} {s : Store E} {parts : List Extern} {resolve : Import → Option Extern}

theorem exported?_eq (i : Instance) (e : Export) :
    exported? i e = (i.part? e.kind e.index).map fun part => (e.name, part) := by
  unfold exported?
  cases e.kind <;> rfl

theorem lookup_exported {i : Instance} {exports : List Export}
    (distinct : (exports.map (·.name)).Nodup)
    {e : Export} (he : e ∈ exports) {part : Extern} (hpart : i.part? e.kind e.index = some part) :
    (exports.filterMap (exported? i)).lookup e.name = some part := by
  induction exports with
  | nil => exact absurd he List.not_mem_nil
  | cons first rest ih =>
    rw [List.map_cons, List.nodup_cons] at distinct
    obtain ⟨hfresh, hrest⟩ := distinct
    rcases List.mem_cons.1 he with rfl | he
    · have hexported : exported? i e = some (e.name, part) := by
        rw [exported?_eq, hpart, Option.map_some]
      rw [List.filterMap_cons_some hexported, List.lookup_cons_self]
    · have hne : (e.name == first.name) = false := by
        refine beq_false_of_ne fun heq => hfresh ?_
        exact heq ▸ List.mem_map.2 ⟨e, he, rfl⟩
      cases hfirst : i.part? first.kind first.index with
      | none =>
        rw [List.filterMap_cons_none (by rw [exported?_eq, hfirst, Option.map_none])]
        exact ih hrest he
      | some other =>
        have hexported : exported? i first = some (first.name, other) := by
          rw [exported?_eq, hfirst, Option.map_some]
        rw [List.filterMap_cons_some hexported, List.lookup_cons, hne]
        exact ih hrest he

theorem nodup_exports (valid : m.isValid) : (m.exports.map (·.name)).Nodup := by
  unfold isValid at valid
  split at valid
  · simp only [isValidWith, Bool.and_eq_true, decide_eq_true_eq] at valid
    exact valid.1.1.1.1.1.2
  · cases valid

theorem export?_newInstance (valid : m.isValid) {e : Export} (he : e ∈ m.exports)
    {part : Extern} (hpart : (m.newInstance s parts).part? e.kind e.index = some part) :
    (m.newInstance s parts).export? e.name = some part :=
  lookup_exported (nodup_exports valid) he hpart

/-- If parts have the types of their numbers, exports have those of their names. -/
theorem typed_of_parts (i : Instance) (exports : List Export)
    (h : ∀ e ∈ exports, ∃ type part, m.partType? e.kind e.index = some type ∧
      i.part? e.kind e.index = some part ∧ s.Fits type part) (name : String) :
    Option.Rel s.Fits
      ((exports.find? (·.name = name)).bind fun e => m.partType? e.kind e.index)
      ((exports.filterMap (exported? i)).lookup name) := by
  induction exports with
  | nil => exact .none
  | cons e es ih =>
    obtain ⟨⟨type, part, htype, hpart, fits⟩, hes⟩ := List.forall_mem_cons.1 h
    have hexported : exported? i e = some (e.name, part) := by
      rw [exported?_eq, hpart, Option.map_some]
    rw [List.filterMap_cons_some hexported]
    by_cases hname : e.name = name
    · rw [List.find?_cons_of_pos (by simpa using hname), Option.bind_some, htype, ← hname,
        List.lookup_cons_self]
      exact .some fits
    · have hne : (name == e.name) = false := beq_false_of_ne (Ne.symm hname)
      rw [List.find?_cons_of_neg (by simpa using hname), List.lookup_cons, hne]
      exact ih hes

/-! ## New instances -/

theorem forall₂_newPlaces {α β : Type} {R : α → Nat → Prop} {as : List α} {present : List β}
    {n : Nat} (hn : as.length = n)
    (h : ∀ (k : Nat) a, as[k]? = some a → R a (present.length + k)) :
    List.Forall₂ R as (newPlaces present n) := by
  refine List.forall₂_iff_get.2 ⟨by simp [newPlaces, hn], fun k hk hk' => ?_⟩
  have hplace : (newPlaces present n).get ⟨k, hk'⟩ = present.length + k := by
    simp [newPlaces]
  rw [hplace]
  exact h k _ (List.getElem?_eq_getElem hk)

/-- In lists of which one gives the types of the parts in the other, a number leads to a part of its
type. -/
theorem rel_getElem? {α : Type} {types : List α} {places : List Nat} {type : α → PartType}
    {part : Nat → Extern}
    (h : List.Forall₂ (fun a place => s.Fits (type a) (part place)) types places) (k : Nat) :
    Option.Rel s.Fits (types[k]?.map type) (places[k]?.map part) := by
  obtain ⟨hlength, hget⟩ := List.forall₂_iff_get.1 h
  by_cases hk : k < types.length
  · have hk' : k < places.length := hlength ▸ hk
    rw [List.getElem?_eq_getElem hk, List.getElem?_eq_getElem hk']
    exact .some (hget k hk hk')
  · have hk' : ¬ k < places.length := hlength ▸ hk
    rw [List.getElem?_eq_none (Nat.le_of_not_lt hk), List.getElem?_eq_none (Nat.le_of_not_lt hk')]
    exact .none

theorem forall₂_imported_functions {imports : List Import} {types : List FuncType}
    (h : List.Forall₂ (fun i part => ∃ type, m.typeOf? i.type = some type ∧ s.Fits type part)
      imports parts)
    (htypes : (imports.filterMap fun i => match i.type with
      | .func t => some t
      | _ => none).mapM (m.types[·]?) = some types) :
    List.Forall₂ (fun type place => s.Fits (.func type) (.func place)) types
      (functionPlaces parts) := by
  -- only the imports of functions are seen on either side
  induction h generalizing types with
  | nil =>
    cases htypes
    exact .nil
  | @cons i part imports parts hpart _ ih =>
    obtain ⟨type, htype, fits⟩ := hpart
    obtain ⟨module, name, wanted⟩ := i
    cases wanted with
    | func index =>
      obtain ⟨t, ht, rfl⟩ := Option.map_eq_some_iff.1 htype
      simp only [List.filterMap_cons, List.mapM_cons, Option.pure_def, Option.bind_eq_bind, ht,
        Option.bind_some, Option.bind_eq_some_iff, Option.some.injEq] at htypes
      obtain ⟨ts, hts, rfl⟩ := htypes
      cases part with
      | func place => exact .cons fits (ih hts)
      | table | memory | global => exact fits.elim
    | table | memory | global =>
      cases htype
      cases part <;> first
        | exact fits.elim
        | exact ih htypes
    | tag => cases htype

theorem fits_of_link (hlink : m.link? s resolve = some parts) :
    List.Forall₂ (fun i part => ∃ type, m.typeOf? i.type = some type ∧
      (m.allocate parts s).Fits type part) m.imports parts := by
  refine (forall₂_of_link hlink).imp fun i part h => ?_
  obtain ⟨type, htype, fits⟩ := provides_iff.1 h.2
  exact ⟨type, htype, fits.keep (keeps_allocate m parts s)⟩

theorem forall₂_functions (valid : m.isValid) (whole : m.Whole)
    (hlink : m.link? s resolve = some parts) :
    List.Forall₂ (fun type place => (m.allocate parts s).Fits (.func type) (.func place))
      (m.functionTypes?.getD []) (m.newInstance s parts).functions := by
  obtain ⟨types, htypes⟩ : ∃ types, m.functionTypes? = some types := by
    unfold isValid at valid
    split at valid
    · next types htypes => exact ⟨types, htypes⟩
    · cases valid
  rw [htypes, Option.getD_some]
  simp only [functionTypes?, Option.bind_eq_bind, Option.pure_def, Option.bind_eq_some_iff,
    Option.some.injEq] at htypes
  obtain ⟨imported, himported, defined, hdefined, rfl⟩ := htypes
  refine List.rel_append (forall₂_imported_functions (fits_of_link hlink) himported) ?_
  obtain ⟨hlength, hget⟩ := List.forall₂_iff_get.1 (forall₂_of_mapM hdefined)
  refine forall₂_newPlaces hlength.symm fun k type hk => ?_
  obtain ⟨hlt, rfl⟩ := List.getElem?_eq_some_iff.1 hk
  have hfunction : k < m.functions.length := hlength ▸ hlt
  have hcode : k < m.codes.length := whole ▸ hfunction
  have htype : m.types[m.functions[k]]? = some defined[k] := hget k hfunction hlt
  have hzip : (m.functions.zip m.codes)[k]? = some (m.functions[k], m.codes[k]) := by
    rw [List.getElem?_zip_eq_some]
    exact ⟨List.getElem?_eq_getElem hfunction, List.getElem?_eq_getElem hcode⟩
  refine ⟨.guest (m.types.getD m.functions[k] ⟨[], []⟩) s.instances.length m.codes[k]
    (m.codes[k].kept (m.functionTypes?.getD [])), ?_, ?_⟩
  · show (s.functions ++ m.newFunctions s.instances.length)[s.functions.length + k]? = _
    rw [getElem?_append_behind, newFunctions, List.getElem?_map, hzip, Option.map_some]
  · show m.types.getD m.functions[k] ⟨[], []⟩ = _
    rw [List.getD_eq_getElem?_getD, htype, Option.getD_some]

theorem rel_of_fits {wanted : ExternType} {part : Extern} :
    (∃ type, m.typeOf? wanted = some type ∧ s.Fits type part) →
    Option.Rel (fun type place => s.Fits (.table type) (.table place))
      (match wanted with
        | .table type => some type
        | _ => none)
      (match part with
        | .table place => some place
        | _ => none) ∧
    Option.Rel (fun limits place => s.Fits (.memory limits) (.memory place))
      (match wanted with
        | .memory limits => some limits
        | _ => none)
      (match part with
        | .memory place => some place
        | _ => none) ∧
    Option.Rel (fun type place => s.Fits (.global type) (.global place))
      (match wanted with
        | .global type => some type
        | _ => none)
      (match part with
        | .global place => some place
        | _ => none) := by
  rintro ⟨type, htype, fits⟩
  cases wanted with
  | func =>
    obtain ⟨_, -, rfl⟩ := Option.map_eq_some_iff.1 htype
    cases part with
    | func => exact ⟨.none, .none, .none⟩
    | table | memory | global => exact fits.elim
  | table =>
    cases htype
    cases part with
    | table => exact ⟨.some fits, .none, .none⟩
    | func | memory | global => exact fits.elim
  | memory =>
    cases htype
    cases part with
    | memory => exact ⟨.none, .some fits, .none⟩
    | func | table | global => exact fits.elim
  | global =>
    cases htype
    cases part with
    | global => exact ⟨.none, .none, .some fits⟩
    | func | table | memory => exact fits.elim
  | tag => cases htype

theorem partType?_isSome (valid : m.isValid) {e : Export} (he : e ∈ m.exports) :
    (m.partType? e.kind e.index).isSome := by
  unfold isValid at valid
  split at valid
  · next types htypes =>
    have hexports : m.exports.all (m.exportIsValid types) := by
      simp only [isValidWith, Bool.and_eq_true] at valid
      exact valid.1.1.1.1.2
    have hexport := List.all_eq_true.1 hexports e he
    obtain ⟨name, kind, index⟩ := e
    cases kind <;> simp_all [exportIsValid, partType?]
  · cases valid

theorem rel_newInstance (valid : m.isValid) (whole : m.Whole)
    (hlink : m.link? s resolve = some parts) (kind : ExternKind) (k : Nat) :
    Option.Rel (m.allocate parts s).Fits (m.partType? kind k)
      ((m.newInstance s parts).part? kind k) := by
  have hfits := fits_of_link hlink
  cases kind with
  | func => exact rel_getElem? (forall₂_functions valid whole hlink) k
  | table =>
    refine rel_getElem? ?_ k
    show List.Forall₂ _ (_ ++ m.tables) (tablePlaces parts ++ newPlaces s.tables m.tables.length)
    refine List.rel_append ?_ (forall₂_newPlaces rfl fun n type hn => ?_)
    · refine List.rel_filterMap (fun i part h => ?_) hfits
      exact (rel_of_fits h).1
    · have hnew : (s.tables ++ m.tables.map fun t => { type := t })[s.tables.length + n]? =
          some { type := type } := by
        rw [getElem?_append_behind, List.getElem?_map, hn, Option.map_some]
      obtain ⟨t, ht, htype⟩ := type_of_newTables hnew
      refine ⟨t, ht, congrArg (·.element) htype, ?_⟩
      rw [Table.size, htype]
      exact Limits.admits_self (Nat.le_refl _)
  | memory =>
    refine rel_getElem? ?_ k
    show List.Forall₂ _ (_ ++ m.memories)
      (memoryPlaces parts ++ newPlaces s.memories m.memories.length)
    refine List.rel_append ?_ (forall₂_newPlaces rfl fun n limits hn => ?_)
    · refine List.rel_filterMap (fun i part h => ?_) hfits
      exact (rel_of_fits h).2.1
    · refine ⟨⟨limits.min, limits.max, limits.shared, ∅⟩, getElem?_append_behind.trans ?_, rfl,
        Limits.admits_self (Nat.le_refl _)⟩
      rw [newMemories, List.getElem?_map, hn, Option.map_some]
  | global =>
    refine rel_getElem? ?_ k
    show List.Forall₂ _ (_ ++ m.globals.map (·.1))
      (globalPlaces parts ++ newPlaces s.globals m.globals.length)
    refine List.rel_append ?_ (forall₂_newPlaces (List.length_map _) fun n type hn => ?_)
    · refine List.rel_filterMap (fun i part h => ?_) hfits
      exact (rel_of_fits h).2.2
    · obtain ⟨g, hg, rfl⟩ := Option.map_eq_some_iff.1 (List.getElem?_map .. ▸ hn)
      refine ⟨⟨g.1, g.2.value s (globalPlaces parts), g.2.target? s (m.newInstance s parts)⟩,
        getElem?_append_behind.trans ?_, rfl⟩
      rw [List.getElem?_map, hg, Option.map_some]
  | tag => exact .none

/-- **A new instance of a valid module exports what the module says, at the types that it gives.**
-/
theorem typed_newInstance (valid : m.isValid) (whole : m.Whole)
    (hlink : m.link? s resolve = some parts) :
    (m.newInstance s parts).Typed m (m.allocate parts s) := by
  intro name
  refine typed_of_parts (m.newInstance s parts) m.exports (fun e he => ?_) name
  have hrel := rel_newInstance valid whole hlink e.kind e.index
  have hsome : (m.partType? e.kind e.index).isSome := partType?_isSome valid he
  obtain ⟨type, htype⟩ := Option.isSome_iff_exists.1 hsome
  rw [htype] at hrel
  generalize (m.newInstance s parts).part? e.kind e.index = part at hrel
  cases hrel with
  | some fits => exact ⟨type, _, htype, rfl, fits⟩

end Module

end ModuleHost.Wasm
