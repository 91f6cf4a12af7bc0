import Mathlib.Data.List.Nodup
import Mathlib.Data.List.Pairwise
import ModuleHost.Proofs.Json.Format
import ModuleHost.Proofs.Json.Skip

/-!
# Records

A record is read from an object whose members may stand in any order. Members of other names are
passed over, and a member that is absent keeps the value of the record to start from.

* `RecordField` — a member of a record: its format, and how its value is got and set;
* `Lawful` — fields that are independent of each other and make up the record;
* `Describes` — the members of an object give a record, seen from the one to start from;
* `Entered` — what a reader holds once some members have come; **`Entered.enter`**: one more member;
* **`takes_record`**: an object that describes a record is taken for it;
* `Format.record` — the format of a record, its members in turn in their formats;
* `Describes.perm`, `Describes.filter`, `Describes.cons_other` — members in another order, without
  some that have the value to start from, with others.
-/

namespace ModuleHost.Json

open ModuleHost.Text Reader

/-- A member of a record: setting it to the value that it has in a record gives it that value. -/
structure RecordField (σ : Type) where
  {α : Type}
  name : String
  required : Bool
  format : Format α
  get : σ → α
  set : σ → α → σ
  get_set : ∀ st a, get (set st (get a)) = get a

variable {σ : Type}

/-- The member that the reader of the record sees. -/
def RecordField.member (f : RecordField σ) : Member σ :=
  ⟨f.name, f.required, fun st => f.set st <$> f.format.reader⟩

/-- Setting one of the fields does not change the other. -/
def RecordField.Apart (f g : RecordField σ) : Prop :=
  (∀ st a, g.get (f.set st (f.get a)) = g.get st) ∧ ∀ st a, f.get (g.set st (g.get a)) = f.get st

instance : Std.Symm (RecordField.Apart (σ := σ)) := ⟨fun _ _ h => ⟨h.2, h.1⟩⟩

/-- The fields have different names, none is changed by setting another, and together they are the
record. -/
structure Lawful (fields : List (RecordField σ)) : Prop where
  distinct : (fields.map (·.name)).Nodup
  apart : fields.Pairwise RecordField.Apart
  ext : ∀ a b, (∀ f ∈ fields, f.get a = f.get b) → a = b

theorem Lawful.get_set_of_ne {fields : List (RecordField σ)} (h : Lawful fields)
    {f g : RecordField σ} (hf : f ∈ fields) (hg : g ∈ fields) (hne : g.name ≠ f.name) (st a : σ) :
    g.get (f.set st (f.get a)) = g.get st := by
  have happart : f.Apart g := h.apart.forall hf hg fun heq => hne (by rw [heq])
  exact happart.1 st a

/-- The members of an object describe the record `a`: each field comes once at most and stands for
its value in `a`; one that is absent need not be given and has its value in `start`. Members of
other names may be anything. -/
structure Describes (fields : List (RecordField σ)) (start a : σ) (es : List (String × Json)) :
    Prop where
  once : ∀ f ∈ fields, (es.map (·.1)).count f.name ≤ 1
  stands : ∀ e ∈ es, ∀ f ∈ fields, f.name = e.1 → f.format.Stands e.2 (f.get a)
  absent : ∀ f ∈ fields, f.name ∉ es.map (·.1) → f.required = false ∧ f.get start = f.get a

variable {fields : List (RecordField σ)} {start a : σ} {es : List (String × Json)}

/-! ## Reading -/

/-- What one member does to the record read so far and the names met so far. -/
def enter (fields : List (RecordField σ)) (a : σ) (st : σ × List String) (e : String × Json) :
    Except ReadError (σ × List String) :=
  match fields.find? (·.name = e.1) with
  | none => .ok st
  | some f =>
    if st.2.contains e.1 then .error .mismatch else .ok (f.set st.1 (f.get a), e.1 :: st.2)

theorem run_recordMember {e : String × Json}
    (h : ∀ f ∈ fields, f.name = e.1 → f.format.Stands e.2 (f.get a)) (st : σ × List String)
    {rest : Text} (hrest : Stops rest) :
    (recordMember (fields.map RecordField.member) e.1 st >>=
        fun value => value.run (pieces e.2.chars ++ rest)) =
      readOn rest (enter fields a st e) := by
  have hfind : (fields.map RecordField.member).find? (·.name = e.1) =
      (fields.find? (·.name = e.1)).map RecordField.member := List.find?_map
  rw [recordMember, enter, hfind]
  cases hf : fields.find? (·.name = e.1) with
  | none =>
    have hskip : Takes ((fun _ => st) <$> skip) e.2 st :=
      Takes.map (fun rest hrest => run_skip e.2 hrest) fun _ => st
    exact hskip rest hrest
  | some f =>
    have hname : f.name = e.1 := by simpa using List.find?_some hf
    have htakes := f.format.takes (h f (List.mem_of_find?_eq_some hf) hname)
    simp only [Option.map_some]
    split
    · rfl
    · exact ((htakes.map (f.set st.1)).map fun r => (r, e.1 :: st.2)) rest hrest

/-- Once the members `names` have come, their fields have their values in `a`, and these are the
fields that were met. -/
structure Entered (fields : List (RecordField σ)) (start a : σ) (names : List String)
    (st : σ × List String) : Prop where
  value : ∀ f ∈ fields, f.get st.1 = if f.name ∈ names then f.get a else f.get start
  met : ∀ f ∈ fields, f.name ∈ st.2 ↔ f.name ∈ names

/-- One more member. -/
theorem Entered.enter (lawful : Lawful fields) {names : List String} {st : σ × List String}
    (h : Entered fields start a names st) {e : String × Json}
    (fresh : ∀ f ∈ fields, f.name = e.1 → f.name ∉ names) :
    ∃ st', enter fields a st e = .ok st' ∧ Entered fields start a (names ++ [e.1]) st' := by
  rw [Json.enter]
  cases hfind : fields.find? (·.name = e.1) with
  | none =>
    -- no field has this name, and nothing is entered
    have hother : ∀ f ∈ fields, f.name ≠ e.1 := by simpa using hfind
    have hmem : ∀ f ∈ fields, f.name ∈ names ++ [e.1] ↔ f.name ∈ names :=
      fun f hf => by rw [List.mem_append, List.mem_singleton, or_iff_left (hother f hf)]
    refine ⟨st, rfl, fun f hf => ?_, fun f hf => (h.met f hf).trans (hmem f hf).symm⟩
    rw [h.value f hf]
    simp only [hmem f hf]
  | some f =>
    -- the field gets its value in `a`, and the others keep theirs
    have hf : f ∈ fields := List.mem_of_find?_eq_some hfind
    have hname : f.name = e.1 := by simpa using List.find?_some hfind
    have hnew : f.name ∉ names := fresh f hf hname
    have hmet : st.2.contains e.1 = false := by
      rw [List.contains_eq_mem, decide_eq_false_iff_not, ← hname, h.met f hf]
      exact hnew
    simp only [hmet]
    refine ⟨_, rfl, fun g hg => ?_, fun g hg => ?_⟩
    · by_cases hgf : g.name = f.name
      · obtain rfl := List.inj_on_of_nodup_map lawful.distinct hg hf hgf
        rw [if_pos (List.mem_append_right _ (List.mem_singleton.2 hname)), g.get_set]
      · rw [lawful.get_set_of_ne hf hg hgf, h.value g hg]
        simp only [List.mem_append, List.mem_singleton, ← hname, hgf, or_false]
    · rw [List.mem_cons, h.met g hg, List.mem_append, List.mem_singleton, or_comm]

theorem exists_entered (lawful : Lawful fields)
    (once : ∀ f ∈ fields, (es.map (·.1)).count f.name ≤ 1) :
    ∃ st, es.foldlM (enter fields a) (start, []) = .ok st ∧
      Entered fields start a (es.map (·.1)) st := by
  induction es using List.reverseRecOn with
  | nil => exact ⟨_, rfl, by simp, by simp⟩
  | append_singleton es e ih =>
    have hcount : ∀ f ∈ fields,
        (es.map (·.1)).count f.name + [e.1].count f.name ≤ 1 := fun f hf => by
      rw [← List.count_append]
      simpa using once f hf
    obtain ⟨st, hfold, hst⟩ := ih fun f hf => Nat.le_trans (Nat.le_add_right _ _) (hcount f hf)
    -- a field that comes now has not come before, since it comes once at most
    obtain ⟨st', henter, hst'⟩ := hst.enter lawful (e := e) fun f hf hname => by
      have hle := hcount f hf
      rw [hname, List.count_singleton_self] at hle
      rw [hname]
      exact List.count_eq_zero.1 (by omega)
    refine ⟨st', ?_, by simpa using hst'⟩
    rw [List.foldlM_append, hfold]
    show enter fields a st e >>= pure = _
    rw [henter]
    rfl

/-- **An object that describes a record is taken for it.** -/
theorem takes_record (lawful : Lawful fields) (h : Describes fields start a es) :
    Takes (record (fields.map RecordField.member) start) (.fields es) a := by
  intro rest _
  obtain ⟨⟨st, met⟩, hfold, hst⟩ : ∃ st, es.foldlM (enter fields a) (start, []) = .ok st ∧
      Entered fields start a (es.map (·.1)) st := exists_entered lawful h.once
  have hbody : (objectBody (recordMember (fields.map RecordField.member)) (start, [])).run
      (pieces (joined [','] (es.map (memberText chars))) ++ .char '}' :: rest) =
        .ok ((st, met), rest) := by
    rw [run_objectBody (fun e he st rest hrest => run_recordMember (h.stands e he) st hrest)
      (start, []) rest, hfold]
    rfl
  have heq : st = a := by
    refine lawful.ext st a fun f hf => ?_
    rw [hst.value f hf]
    split
    · rfl
    · next habsent => exact (h.absent f hf habsent).2
  have hgiven : (fields.map RecordField.member).any (fun m => m.required && !met.contains m.name) =
      false := by
    rw [List.any_map, List.any_eq_false]
    intro f hf hgiven
    obtain ⟨hrequired, hnot⟩ : f.required = true ∧ f.name ∉ met := by
      rw [Function.comp, Bool.and_eq_true, Bool.not_eq_true', List.contains_eq_mem,
        decide_eq_false_iff_not] at hgiven
      exact hgiven
    have habsent : f.name ∉ es.map (·.1) := mt (hst.met f hf).2 hnot
    exact Bool.false_ne_true ((h.absent f hf habsent).1.symm.trans hrequired)
  rw [chars, entryChars_eq, pieces_cons, pieces_append, pieces_cons, pieces_nil, List.cons_append,
    List.append_assoc, List.singleton_append, record, run_bind_ok (run_peek (by decide) _),
    if_pos rfl, run_bind_ok (run_discard (run_next _ _))]
  refine (run_bind_ok hbody _).trans ?_
  simp only [hgiven, heq]
  rfl

/-- The format of a record whose members stand for its fields. -/
def Format.record (fields : List (RecordField σ)) (lawful : Lawful fields) (start : σ) :
    Format σ where
  reader := Reader.record (fields.map RecordField.member) start
  Stands j a := ∃ es, j = .fields es ∧ Describes fields start a es
  takes := by
    rintro _ a ⟨es, rfl, h⟩
    exact takes_record lawful h

/-! ## Objects for a record -/

namespace Describes

theorem of_forall₂ (lawful : Lawful fields)
    (h : List.Forall₂ (fun f e => f.name = e.1 ∧ f.format.Stands e.2 (f.get a)) fields es) :
    Describes fields start a es := by
  have hnames : fields.map (·.name) = es.map (·.1) := by
    rw [← List.forall₂_eq_eq_eq, List.forall₂_map_left_iff, List.forall₂_map_right_iff]
    exact h.imp fun _ _ h => h.1
  refine ⟨fun f _ => ?_, fun e he f hf hname => ?_, fun f hf habsent => ?_⟩
  · rw [← hnames]
    exact List.nodup_iff_count_le_one.1 lawful.distinct f.name
  · obtain ⟨g, hg, hge, hstands⟩ := exists_mem_of_forall₂ h e he
    obtain rfl := List.inj_on_of_nodup_map lawful.distinct hf hg (hname.trans hge.symm)
    exact hstands
  · rw [← hnames] at habsent
    exact absurd (List.mem_map_of_mem hf) habsent

/-- The members may stand in any order. -/
theorem perm (h : Describes fields start a es) {es' : List (String × Json)} (hperm : es'.Perm es) :
    Describes fields start a es' where
  once f hf := by
    rw [(hperm.map _).count_eq]
    exact h.once f hf
  stands e he := h.stands e (hperm.subset he)
  absent f hf habsent := h.absent f hf fun hmem => habsent ((hperm.map _).symm.subset hmem)

/-- Members that have the value of the record to start from may be left out. -/
theorem filter (h : Describes fields start a es) (keep : String → Bool)
    (hdefault : ∀ f ∈ fields, keep f.name = false → f.required = false ∧ f.get start = f.get a) :
    Describes fields start a (es.filter fun e => keep e.1) where
  once f hf := Nat.le_trans ((List.filter_sublist.map _).count_le _) (h.once f hf)
  stands e he := h.stands e (List.mem_of_mem_filter he)
  absent f hf habsent := by
    cases hkeep : keep f.name with
    | false => exact hdefault f hf hkeep
    | true =>
      refine h.absent f hf fun hmem => habsent ?_
      obtain ⟨e, he, hname⟩ := List.mem_map.1 hmem
      exact List.mem_map.2 ⟨e, List.mem_filter.2 ⟨he, by rw [hname, hkeep]⟩, hname⟩

theorem cons_other (h : Describes fields start a es) {e : String × Json}
    (hother : ∀ f ∈ fields, f.name ≠ e.1) : Describes fields start a (e :: es) where
  once f hf := by
    rw [List.map_cons, List.count_cons_of_ne (hother f hf).symm]
    exact h.once f hf
  stands e' he' f hf hname := by
    rcases List.mem_cons.1 he' with rfl | he'
    · exact absurd hname (hother f hf)
    · exact h.stands e' he' f hf hname
  absent f hf habsent := h.absent f hf fun hmem => habsent (List.mem_cons_of_mem _ hmem)

end Describes

end ModuleHost.Json
