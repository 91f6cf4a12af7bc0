import Mathlib.Data.List.DropRight
import ModuleHost.Text.Blank

/-!
# Pieces of a text and the white space around them

* `Text.Trims`, `Text.trim_eq_iff` — a text without the white space around it;
* `Text.Cuts`, `Text.splitAt_eq_iff` — the pieces that a separator joins.
-/

namespace ModuleHost.Text

/-! ## White space -/

/-- `word` is `raw` without the white space around it. -/
structure Trims (raw word : List Char) : Prop where
  around : ∃ before after, raw = before ++ word ++ after ∧ (∀ c ∈ before, isBlank c) ∧
    ∀ c ∈ after, isBlank c
  first : ∀ c ∈ word.head?, ¬isBlank c
  last : ∀ c ∈ word.getLast?, ¬isBlank c

theorem not_isBlank_of_visible {c : Char} (h : 0x21 ≤ c.toNat) (h' : c.toNat ≤ 0x7E) :
    ¬isBlank c := by
  intro hblank
  obtain ⟨r, hr, hin⟩ := List.any_eq_true.1 hblank
  have hranges : ∀ r ∈ blankRanges, r.2 < 0x21 ∨ 0x7E < r.1 := by decide
  have := hranges r hr
  simp only [Bool.and_eq_true, decide_eq_true_eq] at hin
  omega

theorem trim_eq (cs : List Char) : trim cs = (cs.dropWhile isBlank).rdropWhile isBlank := rfl

theorem dropWhile_of_head {p : Char → Bool} {cs : List Char} (h : ∀ c ∈ cs.head?, ¬p c) :
    cs.dropWhile p = cs := by
  cases cs with
  | nil => rfl
  | cons c cs => exact List.dropWhile_cons_of_neg (h c rfl)

theorem rdropWhile_append_of_last {p : Char → Bool} {cs after : List Char}
    (h : ∀ c ∈ cs.getLast?, ¬p c) (hafter : ∀ c ∈ after, p c) :
    (cs ++ after).rdropWhile p = cs := by
  have hhead : ∀ c ∈ cs.reverse.head?, ¬p c := by simpa using h
  rw [List.rdropWhile, List.reverse_append, List.dropWhile_append_of_pos (by simpa using hafter),
    dropWhile_of_head hhead, List.reverse_reverse]

theorem not_of_mem_head?_dropWhile {p : Char → Bool} (cs : List Char) {c : Char}
    (h : c ∈ (cs.dropWhile p).head?) : ¬p c := by
  have hnot := List.head?_dropWhile_not p cs
  rw [Option.mem_def.1 h] at hnot
  simpa using hnot

theorem trims_trim (raw : List Char) : Trims raw (trim raw) := by
  have hprefix : trim raw <+: raw.dropWhile isBlank := List.rdropWhile_prefix _ _
  constructor
  case around =>
    refine ⟨raw.takeWhile isBlank, (raw.dropWhile isBlank).rtakeWhile isBlank, ?_, ?_, ?_⟩
    · rw [trim_eq, List.append_assoc, List.rdropWhile_append_rtakeWhile,
        List.takeWhile_append_dropWhile]
    · exact fun c => List.mem_takeWhile_imp
    · exact fun c => List.mem_rtakeWhile_imp
  case first =>
    intro c hc
    obtain ⟨after, hafter⟩ := hprefix
    apply not_of_mem_head?_dropWhile raw
    rw [← hafter, List.head?_append, Option.mem_def.1 hc]
    rfl
  case last =>
    intro c hc
    apply not_of_mem_head?_dropWhile (raw.dropWhile isBlank).reverse
    rwa [trim, List.getLast?_reverse] at hc

theorem trim_eq_iff {raw word : List Char} : trim raw = word ↔ Trims raw word := by
  refine ⟨fun h => h ▸ trims_trim raw, fun h => ?_⟩
  obtain ⟨before, after, rfl, hbefore, hafter⟩ := h.around
  rw [trim_eq, List.append_assoc, List.dropWhile_append_of_pos hbefore]
  by_cases hword : word = []
  · subst hword
    rw [List.nil_append, List.dropWhile_eq_nil_iff.2 hafter, List.rdropWhile_nil]
  · have hhead : ∀ c ∈ (word ++ after).head?, ¬isBlank c := by
      rw [List.head?_append_of_ne_nil _ hword]
      exact h.first
    rw [dropWhile_of_head hhead, rdropWhile_append_of_last h.last hafter]

theorem trim_eq_self {cs : List Char} (h : ∀ c ∈ cs, ¬isBlank c) : trim cs = cs :=
  trim_eq_iff.2 ⟨⟨[], [], by simp, by simp, by simp⟩, fun c hc => h c (List.mem_of_mem_head? hc),
    fun c hc => h c (List.mem_of_getLast? hc)⟩

theorem trim_trim (cs : List Char) : trim (trim cs) = trim cs :=
  have h := trims_trim cs
  trim_eq_iff.2 ⟨⟨[], [], by simp, by simp, by simp⟩, h.first, h.last⟩

theorem trim_between {before after : List Char} (cs : List Char) (hbefore : ∀ c ∈ before, isBlank c)
    (hafter : ∀ c ∈ after, isBlank c) : trim (before ++ cs ++ after) = trim cs := by
  obtain ⟨⟨inner, inner', hcs, hinner, hinner'⟩, first, last⟩ := trims_trim cs
  refine trim_eq_iff.2 ⟨⟨before ++ inner, inner' ++ after, ?_, ?_, ?_⟩, first, last⟩
  · conv_lhs => rw [hcs]
    simp only [List.append_assoc]
  · exact List.forall_mem_append.2 ⟨hbefore, hinner⟩
  · exact List.forall_mem_append.2 ⟨hinner', hafter⟩

theorem mem_of_mem_trim {cs : List Char} {c : Char} (h : c ∈ trim cs) : c ∈ cs := by
  obtain ⟨before, after, hcs, -⟩ := (trims_trim cs).around
  rw [hcs]
  exact List.mem_append_left _ (List.mem_append_right _ h)

/-! ## Separators -/

/-- `sep` joins the pieces `raws` to the text `cs` and stands in none of them. -/
structure Cuts (sep : Char) (cs : List Char) (raws : List (List Char)) : Prop where
  joined : [sep].intercalate raws = cs
  free : ∀ raw ∈ raws, sep ∉ raw
  nonempty : raws ≠ []

theorem splitAt_eq_splitOn (sep : Char) (cs : List Char) : splitAt sep cs = cs.splitOn sep := by
  induction cs with
  | nil => rfl
  | cons c cs ih =>
    rw [splitAt, ih, List.splitOn_cons_eq_if_modifyHead]
    by_cases hc : c = sep
    · simp [hc]
    · simp only [hc, beq_iff_eq, if_false]
      cases h : cs.splitOn sep with
      | nil => exact absurd h (List.splitOn_ne_nil sep cs)
      | cons piece pieces => rfl

theorem splitAt_cons (sep c : Char) (cs : List Char) :
    splitAt sep (c :: cs) =
      if c = sep then [] :: splitAt sep cs else (splitAt sep cs).modifyHead (c :: ·) := by
  simp only [splitAt_eq_splitOn, List.splitOn_cons_eq_if_modifyHead, beq_iff_eq]

theorem splitAt_append_cons (sep : Char) (cs cs' : List Char) :
    splitAt sep (cs ++ sep :: cs') = splitAt sep cs ++ splitAt sep cs' := by
  simp only [splitAt_eq_splitOn]
  exact List.splitOn_append_cons_self cs cs'

theorem length_splitAt (sep : Char) (cs : List Char) :
    (splitAt sep cs).length = cs.count sep + 1 := by
  induction cs with
  | nil => rfl
  | cons c cs ih =>
    rw [splitAt_cons]
    by_cases hc : c = sep
    · simp [hc, ih]
    · simp [hc, ih]

theorem not_mem_of_mem_splitAt {sep : Char} {cs piece : List Char} (h : piece ∈ splitAt sep cs) :
    sep ∉ piece := by
  induction cs generalizing piece with
  | nil =>
    obtain rfl := List.mem_singleton.1 h
    exact List.not_mem_nil
  | cons c cs ih =>
    rw [splitAt_cons] at h
    by_cases hc : c = sep
    · rw [if_pos hc] at h
      rcases List.mem_cons.1 h with rfl | h
      · exact List.not_mem_nil
      · exact ih h
    · rw [if_neg hc] at h
      cases hcs : splitAt sep cs with
      | nil => simp [hcs] at h
      | cons first others =>
        rw [hcs] at ih h
        rcases List.mem_cons.1 h with rfl | h
        · simpa [Ne.symm hc] using ih List.mem_cons_self
        · exact ih (List.mem_cons_of_mem _ h)

theorem splitAt_eq_iff {sep : Char} {cs : List Char} {raws : List (List Char)} :
    splitAt sep cs = raws ↔ Cuts sep cs raws := by
  constructor
  · rintro rfl
    refine ⟨?_, fun raw => not_mem_of_mem_splitAt, ?_⟩
    · rw [splitAt_eq_splitOn, List.intercalate_splitOn]
    · rw [splitAt_eq_splitOn]
      exact List.splitOn_ne_nil sep cs
  · rintro ⟨rfl, free, nonempty⟩
    rw [splitAt_eq_splitOn, List.splitOn_intercalate sep free nonempty]

theorem cuts_of_not_mem {sep : Char} {cs : List Char} (h : sep ∉ cs) : Cuts sep cs [cs] where
  joined := List.intercalate_singleton
  free := by simpa using h
  nonempty := List.cons_ne_nil _ _

end ModuleHost.Text
