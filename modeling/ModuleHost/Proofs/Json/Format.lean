import Mathlib.Data.List.Forall2
import ModuleHost.Json.Typed
import ModuleHost.Proofs.Json.RoundTrip

/-!
# Formats of typed values

A format says which JSON may stand for a value of a type, and carries the proof that the reader of
that type takes the text of that JSON for the value.

* `Reader.Takes` — the reader takes the text of a JSON value, and nothing behind it;
* `Format` — JSON that stands for values, with its reader; `Format.parse_compact`;
* `Format.string`, `truth`, `int64`, `natural`, `nullable`, `list`, `strings` — the formats;
* `Dict.ofList_of_perm` — the entries of a dictionary in any order.
-/

namespace ModuleHost

namespace Fields

variable {κ α : Type} [Ord κ] [Std.LawfulEqOrd κ]

theorem insert_perm {k : κ} (a : α) {fs : Fields κ α} (h : ∀ e ∈ fs, e.1 ≠ k) :
    (insert k a fs).Perm ((k, a) :: fs) := by
  induction fs with
  | nil => exact .refl _
  | cons f fs ih =>
    obtain ⟨k', b⟩ := f
    obtain ⟨hk, hfs⟩ := List.forall_mem_cons.1 h
    rw [insert]
    split
    · exact .refl _
    · next heq => exact absurd (Std.compare_eq_iff_eq.1 heq).symm hk
    · exact ((ih hfs).cons _).trans (.swap _ _ _)

theorem ofList_perm {entries : List (κ × α)} (h : (entries.map (·.1)).Nodup) :
    (ofList entries).Perm entries := by
  induction entries using List.reverseRecOn with
  | nil => exact .refl _
  | append_singleton entries e ih =>
    rw [List.map_append, List.nodup_append] at h
    obtain ⟨hnodup, -, hne⟩ := h
    have hperm := ih hnodup
    rw [ofList_append_singleton]
    refine (insert_perm e.2 fun f hf => ?_).trans ?_
    · exact hne f.1 (List.mem_map_of_mem (hperm.subset hf)) e.1 (by simp)
    · exact (hperm.cons e).trans (List.perm_append_singleton e entries).symm

end Fields

theorem Dict.foldl_insert {κ α : Type} [Ord κ] [Std.TransOrd κ] [Std.LawfulEqOrd κ]
    (entries : List (κ × α)) :
    entries.foldl (fun d e => d.insert e.1 e.2) empty = ofList entries := by
  induction entries using List.reverseRecOn with
  | nil => rfl
  | append_singleton entries e ih =>
    rw [List.foldl_append, ih]
    simp only [ofList, Fields.ofList_append_singleton]
    rfl

theorem Dict.ofList_of_perm {κ α : Type} [Ord κ] [Std.TransOrd κ] [Std.LawfulEqOrd κ]
    {d : Dict κ α} {entries : List (κ × α)} (h : entries.Perm d.fields) : ofList entries = d := by
  obtain ⟨fields, sorted⟩ := d
  have hnodup : (entries.map (·.1)).Nodup := (h.map _).nodup_iff.2 (nodup_keys ⟨fields, sorted⟩)
  have hfields : Fields.ofList entries = fields := by
    refine ((Fields.ofList_perm hnodup).trans h).eq_of_pairwise (fun a b _ _ hab hba => ?_)
      (Fields.sorted_ofList entries) sorted
    exact absurd hba (by simp [Std.OrientedCmp.gt_of_lt hab])
  simp only [ofList, hfields]

namespace Json

open ModuleHost.Text

namespace Reader

variable {α β : Type}

/-- The reader takes the text of the JSON value for `a`, and nothing behind it. -/
def Takes (r : Reader α) (j : Json) (a : α) : Prop :=
  ∀ rest, Stops rest → r.run (pieces j.chars ++ rest) = .ok (a, rest)

theorem Takes.map {r : Reader α} {j : Json} {a : α} (h : Takes r j a) (f : α → β) :
    Takes (f <$> r) j (f a) := by
  intro rest hrest
  rw [StateT.run_map, h rest hrest]
  rfl

/-- A whole text that a reader takes. -/
theorem Takes.whole {r : Reader α} {j : Json} {a : α} (h : Takes r j a) :
    r.whole (Text.ofString j.compact) = .ok a := by
  have hrun := h [] stops_nil
  rw [List.append_nil] at hrun
  rw [Reader.whole, compact, ofString_ofList, hrun]
  rfl

/-! ## Scalars -/

theorem takes_text (s : String) : Takes text (.string s) s := by
  intro rest _
  rw [chars, quoted, pieces_cons, List.cons_append, text, run_bind_ok (run_peek (by decide) _),
    if_pos rfl, run_bind_ok (run_discard (run_next _ _)), run_stringBody]

theorem takes_truth (b : Bool) : Takes truth (.bool b) b := by
  intro rest _
  unfold truth
  cases b with
  | false =>
    have hword := run_literal ['f', 'a', 'l', 's', 'e'] rest
    refine (run_bind_ok (run_peek (p := .char 'f') (by decide) _) _).trans ?_
    exact run_bind_ok hword _
  | true =>
    have hword := run_literal ['t', 'r', 'u', 'e'] rest
    refine (run_bind_ok (run_peek (p := .char 't') (by decide) _) _).trans ?_
    exact run_bind_ok hword _

/-- The integer of a number. -/
def intOf? : Number → Option Int
  | .natural n => some n.toNat
  | .negative n _ => some n.toInt
  | .float _ _ => none

theorem takes_integer {convert : Int → Option α} {n : Number} {i : Int} {a : α}
    (hn : intOf? n = some i) (ha : convert i = some a) : Takes (integer convert) (.number n) a := by
  intro rest hrest
  obtain ⟨c, cs, hc, hd⟩ := n.exists_chars
  have hintegral : (Json.number n).Integral := by
    cases n with
    | natural | negative => trivial
    | float => cases hn
  have hrun := n.run_number hrest
  rw [Number.reread_of_integral hintegral] at hrun
  rw [chars]
  rw [hc, pieces_cons, List.cons_append] at hrun ⊢
  rw [integer, run_bind_ok (run_peek (not_blank_of_leads hd) _),
    if_pos (hd.imp (fun h => by rw [h]) id), run_bind_ok hrun]
  cases n with
  | natural n =>
    cases hn
    refine (run_bind_ok (run_pure _ _) _).trans ?_
    simp only [ha]
    rfl
  | negative n neg =>
    cases hn
    refine (run_bind_ok (run_pure _ _) _).trans ?_
    simp only [ha]
    rfl
  | float => cases hn

theorem intOf?_ofInt64 (n : Int64) : intOf? (.ofInt64 n) = some n.toInt := by
  unfold Number.ofInt64
  split
  · rfl
  · next h =>
    have hn : 0 ≤ n.toInt := Int64.le_iff_toInt_le.1 (Int64.not_lt.1 h)
    rw [intOf?, Int64.toNat_toUInt64_of_le (Int64.not_lt.1 h), Int64.toNatClampNeg,
      Int.toNat_of_nonneg hn]

theorem takes_int64 (n : Int64) : Takes int64 (.int n) n := by
  refine takes_integer (intOf?_ofInt64 n) ?_
  rw [if_pos ⟨n.le_toInt, n.toInt_lt⟩, Int64.ofInt_toInt]

theorem takes_natural {bound : Nat} {n : UInt64} (h : n.toNat < bound) :
    Takes (natural bound) (.nat n) n.toNat :=
  takes_integer rfl (by rw [if_pos ⟨Int.natCast_nonneg _, by omega⟩, Int.toNat_natCast])

theorem takes_nullable_null (item : Reader α) : Takes (nullable item) .null none := by
  intro rest _
  have hword := run_literal ['n', 'u', 'l', 'l'] rest
  unfold nullable
  refine (run_bind_ok (run_peek (p := .char 'n') (by decide) _) _).trans ?_
  exact run_bind_ok hword _

theorem exists_chars_of_ne_null {j : Json} (hj : j ≠ .null) :
    ∃ c cs, j.chars = c :: cs ∧ isBlankPiece (.char c) = false ∧ c ≠ 'n' := by
  cases j with
  | null => exact absurd rfl hj
  | bool b =>
    cases b
    · exact ⟨'f', _, rfl, by decide, by decide⟩
    · exact ⟨'t', _, rfl, by decide, by decide⟩
  | number n =>
    obtain ⟨c, cs, hc, hd⟩ := n.exists_chars
    exact ⟨c, cs, hc, not_blank_of_leads hd, ne_of_leads hd (by decide) (by decide)⟩
  | string s => exact ⟨'"', _, rfl, by decide, by decide⟩
  | array items => exact ⟨'[', _, rfl, by decide, by decide⟩
  | fields entries => exact ⟨'{', _, rfl, by decide, by decide⟩

theorem takes_nullable {item : Reader α} {j : Json} {a : α} (h : Takes item j a)
    (hj : j ≠ .null) : Takes (nullable item) j (some a) := by
  intro rest hrest
  obtain ⟨c, cs, hc, hblank, hn⟩ := exists_chars_of_ne_null hj
  have hrun := (h.map some) rest hrest
  rw [hc, pieces_cons, List.cons_append] at hrun ⊢
  rw [nullable, run_bind_ok (run_peek hblank _), if_neg fun heq => hn (Piece.char.inj heq), hrun]

/-! ## Containers -/

theorem takes_list {item : Reader α} {js : List Json} {as : List α}
    (h : List.Forall₂ (Takes item) js as) : Takes (list item) (.array js) as := by
  intro rest _
  obtain ⟨hlen, htakes⟩ := List.forall₂_iff_zip.1 h
  have hjs : (js.zip as).map (fun b => b.1.chars) = js.map chars := by
    rw [← List.map_fst_zip (Nat.le_of_eq hlen), List.map_map, List.map_fst_zip (Nat.le_of_eq hlen)]
    rfl
  have hbody : (arrayBody item).run
      (pieces (joined [','] ((js.zip as).map fun b => b.1.chars)) ++ .char ']' :: rest) =
        readOn rest ((js.zip as).mapM fun b => .ok b.2) :=
    run_arrayBody (fun b _ => opens_chars b.1) (fun b hb rest hrest => htakes hb rest hrest) rest
  rw [hjs] at hbody
  rw [chars, itemChars_eq, pieces_cons, pieces_append, pieces_cons, pieces_nil, List.cons_append,
    List.append_assoc, List.singleton_append, list, run_bind_ok (run_peek (by decide) _),
    if_pos rfl, run_bind_ok (run_discard (run_next _ _)), hbody]
  have hall : (js.zip as).mapM (fun b => (Except.ok b.2 : Except ReadError α)) =
      .ok ((js.zip as).map Prod.snd) := List.mapM_pure
  rw [hall, List.map_snd_zip (Nat.le_of_eq hlen.symm)]
  rfl

theorem takes_dict {item : Reader α} {json : α → Json} (h : ∀ a, Takes item (json a) a)
    (entries : List (String × α)) :
    Takes (dict item) (.fields (entries.map fun e => (e.1, json e.2))) (Dict.ofList entries) := by
  intro rest _
  let enter (d : Dict String α) (e : String × α) : Except ReadError (Dict String α) :=
    .ok (d.insert e.1 e.2)
  have hbody : (objectBody (fun k (d : Dict String α) => .ok (d.insert k <$> item)) Dict.empty).run
      (pieces (joined [','] (entries.map (memberText fun a => (json a).chars))) ++
        .char '}' :: rest) = readOn rest (entries.foldlM enter Dict.empty) :=
    run_objectBody (fun e _ d rest hrest => (h e.2).map (d.insert e.1) rest hrest) Dict.empty rest
  have hfold : entries.foldlM enter Dict.empty = .ok (Dict.ofList entries) := by
    rw [← Dict.foldl_insert]
    exact List.foldlM_pure
  have hentries : (entries.map fun e => (e.1, json e.2)).map (memberText chars) =
      entries.map (memberText fun a => (json a).chars) := by
    rw [List.map_map]
    rfl
  rw [chars, entryChars_eq, hentries, pieces_cons, pieces_append, pieces_cons, pieces_nil,
    List.cons_append, List.append_assoc, List.singleton_append, dict,
    run_bind_ok (run_peek (by decide) _), if_pos rfl, run_bind_ok (run_discard (run_next _ _)),
    hbody, hfold]
  rfl

end Reader

/-! ## Formats -/

open Reader

/-- The JSON that stands for values of a type. The reader of the type takes its text for the value
that it stands for. -/
structure Format (α : Type) where
  reader : Reader α
  Stands : Json → α → Prop
  takes : ∀ {j a}, Stands j a → Takes reader j a

namespace Format

variable {α : Type}

/-- A whole text of JSON that stands for a value is read as that value. -/
theorem whole_compact (F : Format α) {j : Json} {a : α} (h : F.Stands j a) :
    F.reader.whole (Text.ofString j.compact) = .ok a := (F.takes h).whole

/-- One JSON value for each value. -/
def exactly (reader : Reader α) (json : α → Json) (takes : ∀ a, Takes reader (json a) a) :
    Format α :=
  ⟨reader, fun j a => j = json a, fun {_ a} h => h ▸ takes a⟩

/-- Strings. -/
def string : Format String := exactly Reader.text .string takes_text

/-- Truth values. -/
def truth : Format Bool := exactly Reader.truth .bool takes_truth

/-- Signed integers of 64 bits. -/
def int64 : Format Int64 := exactly Reader.int64 .int takes_int64

/-- Natural numbers below a bound. -/
def natural (bound : Nat) : Format Nat where
  reader := Reader.natural bound
  Stands j n := ∃ m : UInt64, j = .nat m ∧ m.toNat = n ∧ n < bound
  takes := by
    rintro _ _ ⟨m, rfl, rfl, h⟩
    exact takes_natural h

/-- Values that may be absent, of a type for which `null` does not stand. -/
def nullable (F : Format α) (h : ∀ a, ¬F.Stands .null a) : Format (Option α) where
  reader := Reader.nullable F.reader
  Stands j a := a.elim (j = .null) (F.Stands j)
  takes := by
    rintro j (_ | a) hj
    · subst hj
      exact takes_nullable_null F.reader
    · exact takes_nullable (F.takes hj) fun hnull => h a (hnull ▸ hj)

/-- Lists. -/
def list (F : Format α) : Format (List α) where
  reader := Reader.list F.reader
  Stands j as := ∃ js, j = .array js ∧ List.Forall₂ F.Stands js as
  takes := by
    rintro _ as ⟨js, rfl, h⟩
    exact takes_list (h.imp fun _ _ => F.takes)

theorem stands_list {F : Format α} {json : α → Json} (h : ∀ a, F.Stands (json a) a)
    (as : List α) : F.list.Stands (.array (as.map json)) as :=
  ⟨_, rfl, List.forall₂_map_left_iff.2 (List.forall₂_same.2 fun a _ => h a)⟩

/-- Dictionaries of strings, their entries in any order. -/
def strings : Format (Dict String String) where
  reader := Reader.dict Reader.text
  Stands j d := ∃ es : List (String × String),
    j = .fields (es.map fun e => (e.1, .string e.2)) ∧ es.Perm d.fields
  takes := by
    rintro _ d ⟨es, rfl, h⟩
    exact Dict.ofList_of_perm h ▸ takes_dict takes_text es

end Format

end Json

end ModuleHost
