import ModuleHost.Json.Typed
import ModuleHost.Proofs.Json.RoundTrip

/-!
# Passing over written values

* `run_stringBodyLoose` — a written string is passed over;
* `Passes` — text that is passed over in no more turns than it has characters;
* **`passes_chars`**: that of every value is, floats and any number of open brackets included;
* **`run_skip`**: a written value is passed over, and nothing behind it.
-/

namespace ModuleHost.Json.Reader

open ModuleHost.Text

variable {rest : Text}

/-! ## Strings -/

theorem run_stringFromLoose_escape (c : Char) (fuel : Nat) (s : Text) :
    (stringFromLoose (fuel + 1)).run (pieces (escape c) ++ s) = (stringFromLoose fuel).run s := by
  have hesc : ∀ cs, escapedLoose.run (pieces cs ++ s) = .ok ((), s) →
      (stringFromLoose (fuel + 1)).run (pieces ('\\' :: cs) ++ s) =
        (stringFromLoose fuel).run s := by
    intro cs h
    rw [pieces_cons, List.cons_append, stringFromLoose, run_bind_ok (run_next _ _)]
    exact run_bind_ok h _
  obtain ⟨he, hquote, hslash, hle⟩ | ⟨d, he, hu, hd⟩ | ⟨hlt, he⟩ := escape_cases c <;> rw [he]
  · rw [pieces_cons, pieces_nil, List.singleton_append, stringFromLoose, run_bind_ok (run_next _ _)]
    split
    · next h => cases h
    · next h => exact absurd (Piece.char.inj h) hquote
    · next h => exact absurd (Piece.char.inj h) hslash
    · next c' _ _ h =>
      cases h
      rw [if_neg (by omega)]
  · refine hesc [d] ?_
    unfold escapedLoose
    rw [pieces_cons, pieces_nil, List.singleton_append, run_bind_ok (run_next _ _)]
    split
    · next h => exact absurd (Piece.char.inj h) hu
    · next d' _ h =>
      cases h
      rw [hd]
      rfl
    · next h => cases h
  · refine hesc _ ?_
    unfold escapedLoose
    rw [pieces_cons, List.cons_append, run_bind_ok (run_next _ _)]
    exact run_discard (run_hex4 hlt s)

theorem run_stringFromLoose (cs : List Char) (rest : Text) :
    ∀ fuel, cs.length < fuel →
      (stringFromLoose fuel).run (pieces (cs.flatMap escape) ++ .char '"' :: rest) =
        .ok ((), rest) := by
  induction cs with
  | nil =>
    intro fuel hf
    obtain ⟨fuel, rfl⟩ : ∃ n, fuel = n + 1 := ⟨fuel - 1, by omega⟩
    rfl
  | cons c cs ih =>
    intro fuel hf
    rw [List.length_cons] at hf
    obtain ⟨fuel, rfl⟩ : ∃ n, fuel = n + 1 := ⟨fuel - 1, by omega⟩
    rw [List.flatMap_cons, pieces_append, List.append_assoc, run_stringFromLoose_escape,
      ih fuel (by omega)]

theorem run_stringBodyLoose (t : String) (rest : Text) :
    stringBodyLoose.run (pieces (t.toList.flatMap escape ++ ['"']) ++ rest) = .ok ((), rest) := by
  have hlen := length_le_flatMap_escape t.toList
  rw [pieces_append, pieces_cons, pieces_nil, List.append_assoc, List.singleton_append]
  unfold stringBodyLoose
  refine (run_bind_ok rfl _).trans ?_
  refine run_stringFromLoose t.toList rest _ ?_
  rw [List.length_append, length_pieces, List.length_cons]
  omega

/-! ## Values -/

/-- The text is passed over in no more turns than it has characters, once `before` has passed over
what stands before the value in it. -/
def PassesBehind (before : Reader Unit) (cs : List Char) : Prop :=
  ∃ turns ≤ cs.length, ∀ fuel opened rest, Stops rest →
    (before >>= fun _ => skipFrom (fuel + turns) true opened).run (pieces cs ++ rest) =
      (skipFrom fuel false opened).run rest

/-- The text of a value is passed over in no more turns than it has characters. -/
def Passes (cs : List Char) : Prop := PassesBehind (pure ()) cs

theorem passes_scalar {cs : List Char} (hpos : 0 < cs.length)
    (h : ∀ rest, Stops rest → skipFront.run (pieces cs ++ rest) = .ok (none, rest)) :
    Passes cs := by
  refine ⟨1, hpos, fun fuel opened rest hrest => ?_⟩
  rw [pure_bind, skipFrom, run_bind_ok (h rest hrest)]

/-- The text of a container: items or members between its brackets. -/
def containerChars (b : Bracket) (ts : List (List Char)) : List Char :=
  match b with
  | .square => '[' :: (joined [','] ts ++ [']'])
  | .curly => '{' :: (joined [','] ts ++ ['}'])

theorem closing_ne_comma (b : Bracket) : b.closing ≠ .char ',' := by
  cases b <;> decide

theorem stops_closing (b : Bracket) (s : Text) : Stops (b.closing :: s) := by
  cases b
  · exact stops_cons (.inr (.inl rfl)) s
  · exact stops_cons (.inr (.inr rfl)) s

theorem run_nextSolid_closing (b : Bracket) (s : Text) :
    nextSolid.run (b.closing :: s) = .ok (b.closing, s) := by
  cases b <;> exact run_nextSolid (by decide) s

theorem run_skipFrom_closing (b : Bracket) (fuel : Nat) (opened : List Bracket) (rest : Text) :
    (skipFrom (fuel + 1) false (b :: opened)).run (b.closing :: rest) =
      (skipFrom fuel false opened).run rest := by
  rw [skipFrom, run_bind_ok (run_nextSolid_closing b rest), if_neg (closing_ne_comma b), if_pos rfl]

theorem run_skipFrom_comma (b : Bracket) (fuel : Nat) (opened : List Bracket) (s : Text) :
    (skipFrom (fuel + 1) false (b :: opened)).run (.char ',' :: s) =
      (skipKey b >>= fun _ => skipFrom fuel true (b :: opened)).run s := by
  rw [skipFrom, run_bind_ok (run_nextSolid (by decide) s), if_pos rfl]

theorem passes_joined (b : Bracket) {ts : List (List Char)} (hne : ts ≠ [])
    (h : ∀ t ∈ ts, PassesBehind (skipKey b) t) :
    ∃ turns ≤ (joined [','] ts).length + 1, ∀ fuel opened rest,
      (skipKey b >>= fun _ => skipFrom (fuel + turns) true (b :: opened)).run
          (pieces (joined [','] ts) ++ b.closing :: rest) =
        (skipFrom fuel false opened).run rest := by
  induction ts with
  | nil => exact absurd rfl hne
  | cons t ts ih =>
    obtain ⟨turns, hle, hrun⟩ := h t List.mem_cons_self
    cases ts with
    | nil =>
      -- one more turn for the closing bracket
      refine ⟨1 + turns, by rw [joined]; omega, fun fuel opened rest => ?_⟩
      rw [joined, ← Nat.add_assoc, hrun _ _ _ (stops_closing b rest), run_skipFrom_closing]
    | cons t' ts =>
      obtain ⟨turns', hle', hrun'⟩ :=
        ih (List.cons_ne_nil _ _) fun t ht => h t (List.mem_cons_of_mem _ ht)
      -- one more turn for the comma
      refine ⟨turns' + 1 + turns, ?_, fun fuel opened rest => ?_⟩
      · rw [joined_cons_cons, List.length_append, List.length_append, List.length_singleton]
        omega
      · rw [joined_cons_cons, pieces_append, pieces_append, pieces_cons, pieces_nil,
          List.append_assoc, List.append_assoc, List.singleton_append, ← Nat.add_assoc,
          hrun _ _ _ (stops_cons (.inl rfl) _), ← Nat.add_assoc, run_skipFrom_comma, hrun']

theorem passes_container (b : Bracket) {ts : List (List Char)} (hopen : ∀ t ∈ ts, Opens t)
    (h : ∀ t ∈ ts, PassesBehind (skipKey b) t) : Passes (containerChars b ts) := by
  have hfront : ∀ s, skipFront.run (pieces (containerChars b ts) ++ s) =
      .ok (some b, pieces (joined [','] ts) ++ b.closing :: s) := by
    intro s
    cases b <;>
      rw [containerChars, pieces_cons, pieces_append, pieces_cons, pieces_nil, List.cons_append,
        List.append_assoc, List.singleton_append, skipFront,
        run_bind_ok (run_peek (by decide) _)] <;> rfl
  have hlen : (containerChars b ts).length = (joined [','] ts).length + 2 := by
    cases b <;> simp [containerChars]
  have hblank : isBlankPiece b.closing = false := by cases b <;> rfl
  by_cases hts : ts = []
  · subst hts
    refine ⟨1, by omega, fun fuel opened rest _ => ?_⟩
    rw [pure_bind, skipFrom, run_bind_ok (hfront rest)]
    refine (run_bind_ok (run_peek hblank rest) _).trans ?_
    rw [if_pos rfl, run_bind_ok (run_discard (run_next _ _))]
  · obtain ⟨turns, hle, hrun⟩ := passes_joined b hts h
    have hopened : Opens (joined [','] ts) := Opens.joined hts hopen
    obtain ⟨c, cs, hj, hc, hsquare, hcurly⟩ := hopened
    have hclosing : Piece.char c ≠ b.closing := by
      cases b
      · exact fun heq => hsquare (Piece.char.inj heq)
      · exact fun heq => hcurly (Piece.char.inj heq)
    refine ⟨turns + 1, by omega, fun fuel opened rest _ => ?_⟩
    rw [pure_bind, ← Nat.add_assoc, skipFrom, run_bind_ok (hfront rest), ← hrun fuel opened rest,
      hj, pieces_cons, List.cons_append]
    refine (run_bind_ok (run_peek hc _) _).trans ?_
    rw [if_neg hclosing]

theorem passes_item {cs : List Char} (h : Passes cs) : PassesBehind (skipKey .square) cs := h

theorem passes_memberText {e : String × Json} (h : Passes e.2.chars) :
    PassesBehind (skipKey .curly) (memberText chars e) := by
  obtain ⟨turns, hle, hrun⟩ := h
  refine ⟨turns, ?_, fun fuel opened rest hrest => ?_⟩
  · rw [memberText, List.length_append, List.length_cons]
    omega
  · have hkey : (skipKey .curly).run (pieces (memberText chars e) ++ rest) =
        .ok ((), pieces e.2.chars ++ rest) := by
      rw [memberText, quoted, List.cons_append, pieces_cons, List.cons_append, pieces_append,
        List.append_assoc, skipKey, run_bind_ok (run_nextSolid (by decide) _), if_neg (by simp)]
      refine (run_bind_ok (run_stringBodyLoose e.1 _) _).trans ?_
      rw [pieces_cons, List.cons_append, run_bind_ok (run_nextSolid (by decide) _),
        if_neg (by simp)]
      rfl
    rw [run_bind_ok hkey, ← hrun fuel opened rest hrest, pure_bind]

/-- **The text of every value is passed over.** -/
theorem passes_chars (j : Json) : Passes j.chars := by
  induction j with
  | null =>
    refine passes_scalar (by decide) fun rest _ => ?_
    have hword := run_literal ['n', 'u', 'l', 'l'] rest
    unfold skipFront
    refine (run_bind_ok (run_peek (p := .char 'n') (by decide) _) _).trans ?_
    exact run_bind_ok hword _
  | bool b =>
    refine passes_scalar (opens_chars (.bool b)).length_pos fun rest _ => ?_
    unfold skipFront
    cases b with
    | false =>
      have hword := run_literal ['f', 'a', 'l', 's', 'e'] rest
      refine (run_bind_ok (run_peek (p := .char 'f') (by decide) _) _).trans ?_
      exact run_bind_ok hword _
    | true =>
      have hword := run_literal ['t', 'r', 'u', 'e'] rest
      refine (run_bind_ok (run_peek (p := .char 't') (by decide) _) _).trans ?_
      exact run_bind_ok hword _
  | number n =>
    refine passes_scalar (opens_chars (.number n)).length_pos fun rest hrest => ?_
    obtain ⟨c, cs, hc, hd⟩ := n.exists_chars
    obtain ⟨t, ht, htext⟩ := n.exists_numeral
    have hrun := run_numeral ht hrest .malformed
    rw [htext] at hrun
    rw [chars]
    rw [hc, pieces_cons, List.cons_append] at hrun ⊢
    have hquote : Piece.char c ≠ .char '"' := fun heq =>
      ne_of_leads hd (by decide) (by decide) (Piece.char.inj heq)
    unfold skipFront
    rw [run_bind_ok (run_peek (not_blank_of_leads hd) _), if_neg hquote,
      if_pos (hd.imp (fun h => by rw [h]) id), run_bind_ok (run_discard hrun)]
    rfl
  | string t =>
    refine passes_scalar (opens_chars (.string t)).length_pos fun rest _ => ?_
    rw [chars, quoted, pieces_cons, List.cons_append]
    unfold skipFront
    rw [run_bind_ok (run_peek (by decide) _), if_pos rfl]
    refine (run_bind_ok (run_discard (run_next _ _)) _).trans ?_
    exact run_bind_ok (run_stringBodyLoose t rest) _
  | array items ih =>
    rw [chars, itemChars_eq]
    refine passes_container .square (fun t ht => ?_) fun t ht => ?_
    · obtain ⟨j, -, rfl⟩ := List.mem_map.1 ht
      exact opens_chars j
    · obtain ⟨j, hj, rfl⟩ := List.mem_map.1 ht
      exact passes_item (ih j hj)
  | fields entries ih =>
    rw [chars, entryChars_eq]
    refine passes_container .curly (fun t ht => ?_) fun t ht => ?_
    · obtain ⟨e, -, rfl⟩ := List.mem_map.1 ht
      exact opens_memberText e
    · obtain ⟨e, he, rfl⟩ := List.mem_map.1 ht
      exact passes_memberText (ih e he)

/-- **A written value is passed over**, and nothing behind it. -/
theorem run_skip (j : Json) (h : Stops rest) :
    skip.run (pieces j.chars ++ rest) = .ok ((), rest) := by
  obtain ⟨turns, hle, hrun⟩ := passes_chars j
  have hlen : (pieces j.chars ++ rest).length + 1 =
      j.chars.length - turns + rest.length + 1 + turns := by
    rw [List.length_append, length_pieces]
    omega
  have hskip := hrun (j.chars.length - turns + rest.length + 1) [] rest h
  rw [← hlen, pure_bind] at hskip
  exact (run_bind_ok rfl _).trans hskip

end ModuleHost.Json.Reader
