import ModuleHost.Proofs.Wasm.Spelling
import ModuleHost.Wasm.Section

/-!
# Framed sections

The sections of a module follow one another, each of the outer form that its id asks for.

* `Form`, `Chunk`, `Chunk.Spelled` — the outer form; a section as framing sees it; its bytes;
* `Section.custom?_eq_some`, `Section.wellFramed_iff` — the name of a custom section, and the form
  of the others;
* `reads_framedBy`, `Section.spelled_custom`, `Section.spelled_chunk` — one section;
* **`framedFrom_eq_some`**: sections are taken up to the end;
* `row_rest` — what follows sections are sections, or all together are none.
-/

namespace ModuleHost.Wasm

open Scan (Reads)

/-! ## Sections -/

/-- A payload that begins with a count. -/
def Counted (payload : Bytes) : Prop :=
  ∃ n count rest, payload = count ++ rest ∧ Numeral 32 n count

/-- The outer form that the id of a section asks of its payload: one number for the start function
and for the data count, bodies for the code, a count at the front for other lists, and anything for
ids that are not known. -/
def Form (id : UInt8) (payload : Bytes) : Prop :=
  if id = 8 ∨ id = 12 then ∃ n, Numeral 32 n payload
  else if id = 10 then ∃ bodies, Listed Sized bodies payload
  else if id ≤ 9 ∨ id = 11 ∨ id = 13 then Counted payload
  else True

/-- A section as framing sees it. -/
inductive Chunk where
  | custom (name : String) (content : Bytes)
  | plain (id : UInt8) (payload : Bytes)

/-- The bytes of a section: its id, and its payload behind its length. The payload of a custom
section, whose id is zero, is its name and its content. -/
inductive Chunk.Spelled : Chunk → Bytes → Prop
  | custom {name : String} {content named sized : Bytes} :
      Named name named → Sized (named ++ content) sized →
        Spelled (.custom name content) (0 :: sized)
  | plain {id : UInt8} {payload sized : Bytes} :
      id ≠ 0 → id < 0x80 → Form id payload → Sized payload sized →
        Spelled (.plain id payload) (id :: sized)

/-! ## One section -/

namespace Section

/-- A section as framing sees it. -/
def chunk (s : Section) : Chunk :=
  match s.custom? with
  | some (name, content) => .custom name content
  | none => .plain s.id s.payload

/-- The bytes of a section of which a form is asked. -/
def SpelledBy (fits : Section → Bool) (s : Section) (bytes : Bytes) : Prop :=
  s.id < 0x80 ∧ fits s = true ∧ ∃ sized, bytes = s.id :: sized ∧ Sized s.payload sized

/-- The bytes of a section of a module. -/
def Spelled : Section → Bytes → Prop := SpelledBy wellFramed

theorem custom?_eq_some {s : Section} {name : String} {content : Bytes} :
    s.custom? = some (name, content) ↔
      s.id = 0 ∧ ∃ named, s.payload = named ++ content ∧ Named name named := by
  unfold custom?
  by_cases hid : s.id = 0
  · have hrun : (do return (← Scan.name, ← Scan.remaining) : Scan (String × Bytes)).run' s.payload =
        Scan.name.run s.payload := by
      rw [StateT.run'_eq, StateT.run_bind]
      cases Scan.name.run s.payload <;> rfl
    rw [if_pos hid, hrun, Scan.reads_name]
    simp [hid]
  · rw [if_neg hid]
    simp [hid]

theorem chunk_eq_plain {s : Section} (h : s.id ≠ 0) : s.chunk = .plain s.id s.payload := by
  rw [chunk, custom?, if_neg h]

theorem counted_iff {payload : Bytes} :
    (Scan.u32.run payload).isSome = true ↔ Counted payload := by
  rw [Option.isSome_iff_exists]
  constructor
  · rintro ⟨⟨n, rest⟩, hn⟩
    obtain ⟨count, hpayload, hcount⟩ := (Scan.reads_u32 _ _ _).1 hn
    exact ⟨n, count, rest, hpayload, hcount⟩
  · rintro ⟨n, count, rest, hpayload, hcount⟩
    exact ⟨(n, rest), (Scan.reads_u32 _ _ _).2 ⟨count, hpayload, hcount⟩⟩

theorem wellFramed_iff {s : Section} (h : s.id ≠ 0) :
    s.wellFramed = true ↔ Form s.id s.payload := by
  have hnumber : (Scan.all? Scan.u32 s.payload).isSome = true ↔ ∃ n, Numeral 32 n s.payload := by
    rw [Option.isSome_iff_exists]
    simp only [Scan.reads_u32.all?_eq_some]
  have hbodies : (Scan.all? bodies s.payload).isSome = true ↔
      ∃ bodies, Listed Sized bodies s.payload := by
    rw [Option.isSome_iff_exists]
    simp only [bodies, (Scan.reads_vector Scan.reads_sized).all?_eq_some]
  rw [wellFramed, if_neg h, Form]
  split
  · exact hnumber
  split
  · exact hbodies
  split
  · exact counted_iff
  · simp

theorem reads_framedBy (fits : Section → Bool) : Reads (framedBy fits) (SpelledBy fits) := by
  unfold framedBy
  refine (Scan.reads_bind Scan.reads_byte fun id => Scan.reads_guarded fun _ =>
    Scan.reads_bind Scan.reads_u32 fun n => Scan.reads_bind (Scan.reads_take n) fun payload =>
      Scan.reads_guarded fun _ => Scan.reads_pure _).congr fun s taken => ?_
  constructor
  · rintro ⟨id, _, _, rfl, rfl, hid, n, length, _, rfl, hn, payload, _, _, rfl, ⟨rfl, rfl⟩, hform,
      rfl, rfl⟩
    rw [List.append_nil]
    exact ⟨hid, hform, _, rfl, length, rfl, hn⟩
  · rintro ⟨hid, hform, _, rfl, length, rfl, hn⟩
    exact ⟨s.id, [s.id], _, rfl, rfl, hid, _, length, _, rfl, hn, s.payload, _, [],
      (List.append_nil _).symm, ⟨rfl, rfl⟩, hform, rfl, rfl⟩

theorem reads_framed : Reads framed Spelled := reads_framedBy wellFramed

theorem spelled_custom {fits : Section → Bool}
    (hfits : ∀ s : Section, s.id = 0 → fits s = s.custom?.isSome) {name : String}
    {content bytes : Bytes} : (Chunk.custom name content).Spelled bytes ↔
      ∃ s : Section, s.custom? = some (name, content) ∧ s.SpelledBy fits bytes := by
  constructor
  · intro h
    cases h with
    | @custom _ _ named sized hname hsized =>
      have hcustom : custom? ⟨0, named ++ content⟩ = some (name, content) :=
        custom?_eq_some.2 ⟨rfl, named, rfl, hname⟩
      refine ⟨⟨0, named ++ content⟩, hcustom, (by decide : (0 : UInt8) < 0x80), ?_, sized, rfl,
        hsized⟩
      rw [hfits _ rfl, hcustom]
      rfl
  · rintro ⟨s, hcustom, -, -, sized, rfl, hsized⟩
    obtain ⟨hid, named, hpayload, hname⟩ := custom?_eq_some.1 hcustom
    rw [hid]
    exact .custom hname (hpayload ▸ hsized)

theorem exists_custom {fits : Section → Bool}
    (hfits : ∀ s : Section, s.id = 0 → fits s = s.custom?.isSome) {s : Section} {bytes : Bytes}
    (hid : s.id = 0) (h : s.SpelledBy fits bytes) :
    ∃ name content, s.chunk = .custom name content ∧ (Chunk.custom name content).Spelled bytes := by
  have hform := h.2.1
  rw [hfits s hid, Option.isSome_iff_exists] at hform
  obtain ⟨⟨name, content⟩, hcustom⟩ := hform
  exact ⟨name, content, by rw [chunk, hcustom], (spelled_custom hfits).2 ⟨s, hcustom, h⟩⟩

theorem wellFramed_custom (s : Section) (h : s.id = 0) : s.wellFramed = s.custom?.isSome := by
  rw [wellFramed, if_pos h]

theorem spelled_chunk {f : Chunk} {bytes : Bytes} :
    f.Spelled bytes ↔ ∃ s : Section, s.chunk = f ∧ s.Spelled bytes := by
  constructor
  · intro h
    cases f with
    | custom name content =>
      obtain ⟨s, hcustom, hs⟩ := (spelled_custom wellFramed_custom).1 h
      exact ⟨s, by rw [chunk, hcustom], hs⟩
    | plain id payload =>
      cases h with
      | @plain _ _ sized hid hlt hform hsized =>
        exact ⟨⟨id, payload⟩, chunk_eq_plain hid, hlt,
          (wellFramed_iff (s := ⟨id, payload⟩) hid).2 hform, sized, rfl, hsized⟩
  · rintro ⟨s, rfl, hs⟩
    by_cases hid : s.id = 0
    · obtain ⟨name, content, hchunk, hspelled⟩ := exists_custom wellFramed_custom hid hs
      rwa [hchunk]
    · obtain ⟨hlt, hform, sized, rfl, hsized⟩ := hs
      rw [chunk_eq_plain hid]
      exact .plain hid hlt ((wellFramed_iff hid).1 hform) hsized

end Section

/-! ## Sections one behind another -/

theorem row_chunks {chunks : List Chunk} {bytes : Bytes} :
    Row Chunk.Spelled chunks bytes ↔
      ∃ sections, sections.map Section.chunk = chunks ∧ Row Section.Spelled sections bytes := by
  constructor
  · intro hrow
    induction hrow with
    | nil => exact ⟨[], rfl, .nil⟩
    | cons hf _ ih =>
      obtain ⟨s, rfl, hs⟩ := Section.spelled_chunk.1 hf
      obtain ⟨sections, rfl, hsections⟩ := ih
      exact ⟨s :: sections, rfl, .cons hs hsections⟩
  · rintro ⟨sections, rfl, hrow⟩
    induction hrow with
    | nil => exact .nil
    | cons hs _ ih => exact .cons (Section.spelled_chunk.2 ⟨_, rfl, hs⟩) ih

theorem length_le_of_row {sections : List Section} {bytes : Bytes}
    (h : Row Section.Spelled sections bytes) : sections.length ≤ bytes.length := by
  induction h with
  | nil => exact Nat.le_refl _
  | cons hs _ ih =>
    obtain ⟨-, -, sized, rfl, -⟩ := hs
    simp only [List.length_cons, List.length_append]
    omega

theorem row_sections_nil {sections : List Section} :
    Row Section.Spelled sections [] ↔ sections = [] := by
  refine ⟨fun h => ?_, fun h => h ▸ .nil⟩
  exact List.eq_nil_of_length_eq_zero (Nat.le_zero.1 (length_le_of_row h))

theorem framedFrom_nil {fuel : Nat} {rest : Bytes} {sections : List Section} :
    (framedFrom fuel).run [] = some (sections, rest) ↔
      rest = [] ∧ sections.length ≤ fuel ∧ Row Section.Spelled sections [] := by
  have hrun : (framedFrom fuel).run [] = some ([], []) := by cases fuel <;> rfl
  rw [hrun, Option.some.injEq, Prod.mk.injEq, row_sections_nil]
  constructor
  · rintro ⟨rfl, rfl⟩
    exact ⟨rfl, Nat.zero_le _, rfl⟩
  · rintro ⟨rfl, -, rfl⟩
    exact ⟨rfl, rfl⟩

theorem framedFrom_eq_some {fuel : Nat} {s rest : Bytes} {sections : List Section} :
    (framedFrom fuel).run s = some (sections, rest) ↔
      rest = [] ∧ sections.length ≤ fuel ∧ Row Section.Spelled sections s := by
  induction fuel generalizing s sections rest with
  | zero =>
    cases s with
    | nil => exact framedFrom_nil
    | cons b s =>
      have hrun : (framedFrom 0).run (b :: s) = none := rfl
      simp only [hrun, reduceCtorEq, false_iff]
      rintro ⟨-, hlength, hrow⟩
      obtain rfl := List.eq_nil_of_length_eq_zero (Nat.le_zero.1 hlength)
      cases hrow
  | succ fuel ih =>
    cases s with
    | nil => exact framedFrom_nil
    | cons b s =>
      have hrun : (framedFrom (fuel + 1)).run (b :: s) = (framed.run (b :: s)).bind fun r =>
          ((framedFrom fuel).run r.2).bind fun q => some (r.1 :: q.1, q.2) := rfl
      rw [hrun, Option.bind_eq_some_iff]
      constructor
      · rintro ⟨⟨x, s'⟩, hx, h⟩
        obtain ⟨⟨xs, r⟩, hxs, h⟩ := Option.bind_eq_some_iff.1 h
        cases h
        obtain ⟨front, hs, hfront⟩ := (Section.reads_framed _ _ _).1 hx
        obtain ⟨hrest, hlength, hrow⟩ := ih.1 hxs
        rw [hs]
        exact ⟨hrest, Nat.succ_le_succ hlength, .cons hfront hrow⟩
      · rintro ⟨hrest, hlength, hrow⟩
        generalize hs : b :: s = bytes at hrow
        cases hrow with
        | nil => cases hs
        | @cons x xs front back hfront hback =>
          rw [(Section.reads_framed _ _ _).2 ⟨front, rfl, hfront⟩]
          refine ⟨_, rfl, ?_⟩
          rw [ih.2 ⟨hrest, Nat.le_of_succ_le_succ hlength, hback⟩]
          rfl

theorem row_rest {sections sections' : List Section} {row tail : Bytes}
    (h : Row Section.Spelled sections row) (h' : Row Section.Spelled sections' (row ++ tail)) :
    ∃ more, sections' = sections ++ more ∧ Row Section.Spelled more tail := by
  induction h generalizing sections' with
  | nil => exact ⟨sections', rfl, h'⟩
  | @cons s sections front back hs _ ih =>
    generalize hbytes : front ++ back ++ tail = bytes at h'
    have hrun : framed.run bytes = some (s, back ++ tail) :=
      (Section.reads_framed _ _ _).2 ⟨front, by rw [← hbytes, List.append_assoc], hs⟩
    cases h' with
    | nil => cases hrun
    | @cons s' sections' front' back' hs' hback =>
      rw [(Section.reads_framed _ _ _).2 ⟨front', rfl, hs'⟩] at hrun
      cases hrun
      obtain ⟨more, rfl, hmore⟩ := ih hback
      exact ⟨more, rfl, hmore⟩

end ModuleHost.Wasm
