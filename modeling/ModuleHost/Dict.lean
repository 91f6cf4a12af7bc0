/-!
# Dictionaries ordered by key

A dictionary lists each key once, in increasing order. The recursive value types hold plain lists
of fields and use the functions on lists; everything else holds a `Dict`.

* `Fields` — a list of keyed entries; `Fields.Sorted`, `Fields.get?`, `Fields.insert`;
* `Fields.ofList` — the entries of a list in order of key, the last entry of a key winning;
* `Dict` — sorted fields; `get?`, `insert`, `ofList`, `merge`, `keys`;
* `Dict.get?_insert`, `Dict.get?_erase`, `Dict.get?_merge`, `Dict.ext_get?` — a dictionary is the
  values of its keys.
-/

namespace ModuleHost

variable {κ α : Type} [Ord κ]

/-- Keyed entries. -/
abbrev Fields (κ α : Type) := List (κ × α)

namespace Fields

/-- Keys increase strictly. -/
def Sorted (fs : Fields κ α) : Prop := fs.Pairwise fun a b => compare a.1 b.1 = .lt

instance (fs : Fields κ α) : Decidable fs.Sorted :=
  inferInstanceAs (Decidable (fs.Pairwise _))

/-- The value of a key. -/
def get? (k : κ) : Fields κ α → Option α
  | [] => none
  | (k', a) :: fs => if compare k k' = .eq then some a else get? k fs

/-- Enters `a` under `k`, replacing the entry of an equal key. -/
def insert (k : κ) (a : α) : Fields κ α → Fields κ α
  | [] => [(k, a)]
  | (k', b) :: fs =>
    match compare k k' with
    | .lt => (k, a) :: (k', b) :: fs
    | .eq => (k', a) :: fs
    | .gt => (k', b) :: insert k a fs

/-- Without the entry of `k`. -/
def erase (k : κ) (fs : Fields κ α) : Fields κ α := fs.filter fun e => compare k e.1 ≠ .eq

/-- The entries in order of key; of two entries with one key the later stays. -/
def ofList (entries : List (κ × α)) : Fields κ α :=
  entries.foldl (fun fs e => insert e.1 e.2 fs) []

theorem sorted_nil : Sorted ([] : Fields κ α) := List.Pairwise.nil

theorem mem_insert_fst {k : κ} {a : α} {fs : Fields κ α} {e : κ × α} (h : e ∈ insert k a fs) :
    e.1 = k ∨ ∃ e' ∈ fs, e'.1 = e.1 := by
  induction fs with
  | nil => simp_all [insert]
  | cons f fs ih =>
    obtain ⟨k', b⟩ := f
    rw [insert] at h
    split at h
    · simp only [List.mem_cons] at h
      rcases h with rfl | rfl | h
      · exact .inl rfl
      · exact .inr ⟨_, List.mem_cons_self, rfl⟩
      · exact .inr ⟨e, List.mem_cons_of_mem _ h, rfl⟩
    · simp only [List.mem_cons] at h
      rcases h with rfl | h
      · exact .inr ⟨_, List.mem_cons_self, rfl⟩
      · exact .inr ⟨e, List.mem_cons_of_mem _ h, rfl⟩
    · simp only [List.mem_cons] at h
      rcases h with rfl | h
      · exact .inr ⟨_, List.mem_cons_self, rfl⟩
      · rcases ih h with h | ⟨e', he', h⟩
        · exact .inl h
        · exact .inr ⟨e', List.mem_cons_of_mem _ he', h⟩

theorem Sorted.insert [Std.TransOrd κ] [Std.LawfulEqOrd κ] (k : κ) (a : α) {fs : Fields κ α}
    (h : fs.Sorted) : (Fields.insert k a fs).Sorted := by
  induction fs with
  | nil => simp [Fields.insert, Sorted]
  | cons f fs ih =>
    obtain ⟨k', b⟩ := f
    have hd := (List.pairwise_cons.1 h).1
    have tl := (List.pairwise_cons.1 h).2
    rw [Fields.insert]
    split
    · next hk =>
      refine List.pairwise_cons.2 ⟨fun e he => ?_, h⟩
      rcases List.mem_cons.1 he with rfl | he
      · exact hk
      · exact Std.TransCmp.lt_trans hk (hd e he)
    · exact List.pairwise_cons.2 ⟨fun e he => hd e he, tl⟩
    · next hk =>
      refine List.pairwise_cons.2 ⟨fun e he => ?_, ih tl⟩
      rcases mem_insert_fst he with h' | ⟨e', he', h'⟩
      · rw [h']; exact Std.OrientedCmp.lt_of_gt hk
      · rw [← h']; exact hd e' he'

theorem Sorted.foldl_insert [Std.TransOrd κ] [Std.LawfulEqOrd κ] (entries : List (κ × α))
    {fs : Fields κ α} (h : fs.Sorted) :
    (entries.foldl (fun fs e => Fields.insert e.1 e.2 fs) fs).Sorted := by
  induction entries generalizing fs with
  | nil => exact h
  | cons e es ih => exact ih (h.insert e.1 e.2)

theorem sorted_ofList [Std.TransOrd κ] [Std.LawfulEqOrd κ] (entries : List (κ × α)) :
    (ofList entries).Sorted := Sorted.foldl_insert entries sorted_nil

theorem Sorted.erase (k : κ) {fs : Fields κ α} (h : fs.Sorted) : (Fields.erase k fs).Sorted :=
  List.Pairwise.filter _ h

/-! ## Values by key -/

theorem get?_insert [Std.LawfulEqOrd κ] [DecidableEq κ] (k q : κ) (a : α) (fs : Fields κ α) :
    get? q (insert k a fs) = if q = k then some a else get? q fs := by
  induction fs with
  | nil => simp [insert, get?]
  | cons f fs ih =>
    obtain ⟨k', b⟩ := f
    rw [insert]
    split
    · simp [get?]
    · next h =>
      obtain rfl := Std.compare_eq_iff_eq.1 h
      by_cases hq : q = k <;> simp [get?, hq]
    · next h =>
      by_cases hq : q = k'
      · subst hq
        have hk : q ≠ k := fun hk => by simp [hk] at h
        simp [get?, hk]
      · simp [get?, hq, ih]

theorem get?_erase [Std.LawfulEqOrd κ] [DecidableEq κ] (k q : κ) (fs : Fields κ α) :
    get? q (erase k fs) = if q = k then none else get? q fs := by
  induction fs with
  | nil => simp [erase, get?]
  | cons f fs ih =>
    obtain ⟨k', b⟩ := f
    simp only [erase] at ih
    by_cases hk : k = k'
    · subst hk
      by_cases hq : q = k <;> simp_all [erase, get?]
    · by_cases hq : q = k'
      · subst hq
        simp [erase, get?, hk, Ne.symm hk]
      · simp_all [erase, get?]

theorem get?_eq_none_of_lt {k : κ} {fs : Fields κ α} (h : ∀ e ∈ fs, compare k e.1 = .lt) :
    get? k fs = none := by
  induction fs with
  | nil => rfl
  | cons f fs ih =>
    obtain ⟨k', b⟩ := f
    have hk : compare k k' = .lt := h _ List.mem_cons_self
    simpa [get?, hk] using ih fun e he => h e (List.mem_cons_of_mem _ he)

theorem mem_of_get? [Std.LawfulEqOrd κ] {k : κ} {a : α} {fs : Fields κ α}
    (h : get? k fs = some a) : (k, a) ∈ fs := by
  induction fs with
  | nil => cases h
  | cons f fs ih =>
    obtain ⟨k', b⟩ := f
    rw [get?] at h
    split at h
    · next hk =>
      obtain rfl := Std.compare_eq_iff_eq.1 hk
      cases h
      exact List.mem_cons_self
    · exact List.mem_cons_of_mem _ (ih h)

theorem Sorted.get?_of_mem [Std.OrientedOrd κ] {k : κ} {a : α} {fs : Fields κ α}
    (hs : fs.Sorted) (h : (k, a) ∈ fs) : get? k fs = some a := by
  induction fs with
  | nil => cases h
  | cons f fs ih =>
    obtain ⟨k', b⟩ := f
    rcases List.mem_cons.1 h with h | h
    · cases h
      simp [get?]
    · have hk := Std.OrientedCmp.gt_of_lt ((List.pairwise_cons.1 hs).1 _ h)
      rw [get?, if_neg (by simp [hk])]
      exact ih (List.pairwise_cons.1 hs).2 h

/-- Sorted fields are known by the values of their keys. -/
theorem Sorted.ext [Std.TransOrd κ] [Std.LawfulEqOrd κ] {fs gs : Fields κ α} (hf : fs.Sorted)
    (hg : gs.Sorted) (h : ∀ k, get? k fs = get? k gs) : fs = gs := by
  induction fs generalizing gs with
  | nil =>
    cases gs with
    | nil => rfl
    | cons g gs => simpa [get?] using h g.1
  | cons f fs ih =>
    cases gs with
    | nil => simpa [get?] using h f.1
    | cons g gs =>
      obtain ⟨k, a⟩ := f
      obtain ⟨l, b⟩ := g
      have hd := (List.pairwise_cons.1 hf).1
      have hd' := (List.pairwise_cons.1 hg).1
      have hk := h k
      have hl := h l
      simp only [get?, Std.ReflCmp.compare_self, if_true] at hk hl
      cases hc : compare k l with
      | lt =>
        rw [get?_eq_none_of_lt fun e he => Std.TransCmp.lt_trans hc (hd' e he)] at hk
        simp [hc] at hk
      | gt =>
        have hc' := Std.OrientedCmp.lt_of_gt hc
        rw [get?_eq_none_of_lt fun e he => Std.TransCmp.lt_trans hc' (hd e he)] at hl
        simp [hc'] at hl
      | eq =>
        obtain rfl := Std.compare_eq_iff_eq.1 hc
        simp only [Std.ReflCmp.compare_self, if_true, Option.some.injEq] at hk
        rw [hk, ih (List.pairwise_cons.1 hf).2 (List.pairwise_cons.1 hg).2 fun q => ?_]
        cases hq : compare q k with
        | eq =>
          obtain rfl := Std.compare_eq_iff_eq.1 hq
          rw [get?_eq_none_of_lt hd, get?_eq_none_of_lt hd']
        | lt => simpa [get?, hq] using h q
        | gt => simpa [get?, hq] using h q

end Fields

/-- A dictionary: fields in increasing order of key. -/
structure Dict (κ α : Type) [Ord κ] where
  fields : Fields κ α
  sorted : fields.Sorted

namespace Dict

instance [DecidableEq κ] [DecidableEq α] : DecidableEq (Dict κ α) := fun a b =>
  decidable_of_iff (a.fields = b.fields)
    ⟨fun h => by cases a; cases b; cases h; rfl, fun h => by rw [h]⟩

/-- The dictionary without entries. -/
def empty : Dict κ α := ⟨[], Fields.sorted_nil⟩

instance : Inhabited (Dict κ α) := ⟨empty⟩

instance : EmptyCollection (Dict κ α) := ⟨empty⟩

/-- The value of a key. -/
def get? (d : Dict κ α) (k : κ) : Option α := Fields.get? k d.fields

/-- Whether a key has an entry. -/
def contains (d : Dict κ α) (k : κ) : Bool := (d.get? k).isSome

/-- The keys, in increasing order. -/
def keys (d : Dict κ α) : List κ := d.fields.map (·.1)

/-- The values, in order of their keys. -/
def values (d : Dict κ α) : List α := d.fields.map (·.2)

/-- Whether there are no entries. -/
def isEmpty (d : Dict κ α) : Bool := d.fields.isEmpty

section

variable [Std.TransOrd κ] [Std.LawfulEqOrd κ]

/-- Enters a value under a key, replacing the one there. -/
def insert (d : Dict κ α) (k : κ) (a : α) : Dict κ α :=
  ⟨Fields.insert k a d.fields, d.sorted.insert k a⟩

/-- Without the entry of a key. -/
def erase (d : Dict κ α) (k : κ) : Dict κ α := ⟨Fields.erase k d.fields, d.sorted.erase k⟩

/-- The dictionary of a list of entries, the last entry of a key winning. -/
def ofList (entries : List (κ × α)) : Dict κ α :=
  ⟨Fields.ofList entries, Fields.sorted_ofList entries⟩

/-- The entries of both; those of `e` win. -/
def merge (d e : Dict κ α) : Dict κ α := e.fields.foldl (fun d f => d.insert f.1 f.2) d

/-! ## Values by key -/

omit [Std.TransOrd κ] [Std.LawfulEqOrd κ] in
@[simp]
theorem get?_empty (k : κ) : (empty : Dict κ α).get? k = none := rfl

theorem get?_insert [DecidableEq κ] (d : Dict κ α) (k q : κ) (a : α) :
    (d.insert k a).get? q = if q = k then some a else d.get? q := Fields.get?_insert k q a d.fields

omit [Std.TransOrd κ] in
theorem get?_erase [DecidableEq κ] (d : Dict κ α) (k q : κ) :
    (d.erase k).get? q = if q = k then none else d.get? q := Fields.get?_erase k q d.fields

theorem get?_foldl_insert [DecidableEq κ] {fs : Fields κ α} (sorted : fs.Sorted) (d : Dict κ α)
    (k : κ) : (fs.foldl (fun d f => d.insert f.1 f.2) d).get? k =
      (Fields.get? k fs).or (d.get? k) := by
  induction fs generalizing d with
  | nil => rfl
  | cons f fs ih =>
    have hd := (List.pairwise_cons.1 sorted).1
    rw [List.foldl_cons, ih (List.pairwise_cons.1 sorted).2, get?_insert, Fields.get?]
    by_cases hk : k = f.1
    · -- the key is that of no later entry
      subst hk
      simp [Fields.get?_eq_none_of_lt hd]
    · simp [hk]

/-- The entries of the second dictionary win. -/
theorem get?_merge [DecidableEq κ] (d e : Dict κ α) (k : κ) :
    (d.merge e).get? k = (e.get? k).or (d.get? k) := get?_foldl_insert e.sorted d k

omit [Std.TransOrd κ] in
theorem get?_eq_some_iff [Std.OrientedOrd κ] {d : Dict κ α} {k : κ} {a : α} :
    d.get? k = some a ↔ (k, a) ∈ d.fields :=
  ⟨Fields.mem_of_get?, d.sorted.get?_of_mem⟩

omit [Std.TransOrd κ] in
theorem mem_values [Std.OrientedOrd κ] {d : Dict κ α} {a : α} :
    a ∈ d.values ↔ ∃ k, d.get? k = some a := by
  simp [values, get?_eq_some_iff]

omit [Std.TransOrd κ] in
theorem mem_keys [Std.OrientedOrd κ] {d : Dict κ α} {k : κ} :
    k ∈ d.keys ↔ ∃ a, d.get? k = some a := by
  simp [keys, get?_eq_some_iff]

omit [Std.TransOrd κ] [Std.LawfulEqOrd κ] in
theorem nodup_keys [Std.ReflOrd κ] (d : Dict κ α) : d.keys.Nodup := by
  rw [keys, List.Nodup, List.pairwise_map]
  refine d.sorted.imp fun {a b} hlt h => ?_
  rw [h] at hlt
  simp at hlt

omit [Std.TransOrd κ] in
/-- What tells the keys apart tells the values apart. -/
theorem nodup_map_values [Std.OrientedOrd κ] {β : Type} {d : Dict κ α} {f : α → β}
    (h : ∀ k l a b, d.get? k = some a → d.get? l = some b → f a = f b → k = l) :
    (d.values.map f).Nodup := by
  rw [values, List.map_map, List.Nodup, List.pairwise_map]
  refine d.sorted.imp_of_mem fun {a b} ha hb hlt hf => ?_
  have hk := h a.1 b.1 a.2 b.2 (get?_eq_some_iff.2 ha) (get?_eq_some_iff.2 hb) hf
  rw [hk] at hlt
  simp at hlt

/-- Dictionaries are known by the values of their keys. -/
theorem ext_get? {d e : Dict κ α} (h : ∀ k, d.get? k = e.get? k) : d = e := by
  cases d with | mk fs hf =>
  cases e with | mk gs hg =>
  obtain rfl := Fields.Sorted.ext hf hg h
  rfl

end

end Dict

end ModuleHost
