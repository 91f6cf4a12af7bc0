import ModuleHost.Proofs.Json.Container
import ModuleHost.Proofs.Json.Shape

/-!
# Reading written values

* `Json.reread` — what a reader with a bound on the open brackets makes of the text of a value;
* **`run_value`**: it takes that text and nothing behind it;
* `Json.bounded` — the normal form of a value, unless it opens too many brackets;
* **`reread_of_integral`**: a value without floats is read back so;
* **`parse_compact`**: so is a whole text.
-/

namespace ModuleHost.Json

open ModuleHost.Text Reader

mutual

/-- What a reader that takes at most so many open brackets makes of the text of a value. -/
def reread : Json → Nat → Except ReadError Json
  | .number n, _ => .number <$> n.reread
  | .array _, 0 => .error .malformed
  | .array items, d + 1 => .array <$> rereadItems items d
  | .fields _, 0 => .error .malformed
  | .fields entries, d + 1 => object <$> rereadEntries entries d
  | j, _ => .ok j

/-- What it makes of the items of an array. -/
def rereadItems : List Json → Nat → Except ReadError (List Json)
  | [], _ => .ok []
  | j :: js, d => do
    let j' ← reread j d
    return j' :: (← rereadItems js d)

/-- What it makes of the members of an object. -/
def rereadEntries : List (String × Json) → Nat → Except ReadError (List (String × Json))
  | [], _ => .ok []
  | (k, j) :: es, d => do
    let j' ← reread j d
    return (k, j') :: (← rereadEntries es d)

end

theorem rereadItems_eq (items : List Json) (d : Nat) :
    rereadItems items d = items.mapM (reread · d) := by
  induction items with
  | nil => rfl
  | cons j js ih => rw [rereadItems, List.mapM_cons, ih]

/-! ## First characters -/

theorem itemChars_eq (items : List Json) : itemChars items = items.map chars := by
  induction items with
  | nil => rfl
  | cons j js ih => rw [itemChars, ih, List.map_cons]

theorem entryChars_eq (entries : List (String × Json)) :
    entryChars entries = entries.map (memberText chars) := by
  induction entries with
  | nil => rfl
  | cons e es ih =>
    rw [entryChars, ih, List.map_cons]
    rfl

theorem ne_of_leads {c d : Char} (h : c = '-' ∨ (digit? (.char c)).isSome) (hsign : d ≠ '-')
    (hdigit : digit? (.char d) = none) : c ≠ d := by
  rintro rfl
  rcases h with h | h
  · exact hsign h
  · rw [hdigit] at h
    cases h

theorem not_blank_of_leads {c : Char} (h : c = '-' ∨ (digit? (.char c)).isSome) :
    isBlankPiece (.char c) = false := by
  simp [isBlankPiece, ne_of_leads h (d := ' ') (by decide) (by decide),
    ne_of_leads h (d := '\t') (by decide) (by decide),
    ne_of_leads h (d := '\n') (by decide) (by decide),
    ne_of_leads h (d := '\r') (by decide) (by decide)]

theorem Number.exists_chars (n : Number) :
    ∃ c cs, n.chars = c :: cs ∧ (c = '-' ∨ (digit? (.char c)).isSome) := by
  obtain ⟨t, ht, htext⟩ := n.exists_numeral
  rw [← htext]
  exact ht.exists_chars

theorem opens_chars (j : Json) : Opens j.chars := by
  cases j with
  | null => exact ⟨'n', _, rfl, by decide, by decide, by decide⟩
  | bool b =>
    cases b
    · exact ⟨'f', _, rfl, by decide, by decide, by decide⟩
    · exact ⟨'t', _, rfl, by decide, by decide, by decide⟩
  | number n =>
    obtain ⟨c, cs, hc, hd⟩ := n.exists_chars
    exact ⟨c, cs, hc, not_blank_of_leads hd, ne_of_leads hd (by decide) (by decide),
      ne_of_leads hd (by decide) (by decide)⟩
  | string s => exact ⟨'"', _, rfl, by decide, by decide, by decide⟩
  | array items => exact ⟨'[', _, rfl, by decide, by decide, by decide⟩
  | fields entries => exact ⟨'{', _, rfl, by decide, by decide, by decide⟩

/-! ## Members -/

/-- The reader of a member of an object, which gathers it in front of those before. -/
def valueMember (d : Nat) (k : String) (es : List (String × Json)) :
    Except ReadError (Reader (List (String × Json))) :=
  .ok ((fun j => (k, j) :: es) <$> value d)

/-- Members are gathered in front of those before. -/
def gatherMember (d : Nat) (es : List (String × Json)) (e : String × Json) :
    Except ReadError (List (String × Json)) :=
  (e.2.reread d).map fun j => (e.1, j) :: es

theorem foldlM_gatherMember (d : Nat) (entries es : List (String × Json)) :
    entries.foldlM (gatherMember d) es =
      (rereadEntries entries d).map fun es' => es'.reverse ++ es := by
  induction entries generalizing es with
  | nil => rfl
  | cons e entries ih =>
    rw [List.foldlM_cons, gatherMember, rereadEntries]
    cases e.2.reread d with
    | error cause => rfl
    | ok j =>
      refine (ih _).trans ?_
      cases hes : rereadEntries entries d with
      | error cause => rfl
      | ok es' => simp [Except.map, bind, Except.bind, pure, Except.pure]

theorem run_valueMember {d : Nat} {e : String × Json} {rest : Text} (es : List (String × Json))
    (h : (value d).run (pieces e.2.chars ++ rest) = readOn rest (e.2.reread d)) :
    (valueMember d e.1 es >>= fun value => value.run (pieces e.2.chars ++ rest)) =
      readOn rest (gatherMember d es e) := by
  show ((fun j => (e.1, j) :: es) <$> value d).run _ = _
  rw [StateT.run_map, h, gatherMember]
  cases e.2.reread d <;> rfl

/-! ## Values -/

/-- **The text of a value is taken as it stands**, whatever is read from it. -/
theorem run_value (j : Json) : ∀ (d : Nat) (rest : Text), Stops rest →
    (value d).run (pieces j.chars ++ rest) = readOn rest (j.reread d) := by
  induction j with
  | null =>
    intro d rest _
    have hword := run_literal ['n', 'u', 'l', 'l'] rest
    unfold value
    refine (run_bind_ok (run_peek (p := .char 'n') (by decide) _) _).trans ?_
    rw [if_neg (by decide), if_neg (by decide), if_neg (by decide), if_neg (by decide), if_pos rfl]
    exact run_bind_ok hword _
  | bool b =>
    intro d rest _
    unfold value
    cases b with
    | false =>
      have hword := run_literal ['f', 'a', 'l', 's', 'e'] rest
      refine (run_bind_ok (run_peek (p := .char 'f') (by decide) _) _).trans ?_
      rw [if_neg (by decide), if_neg (by decide), if_neg (by decide), if_neg (by decide),
        if_neg (by decide), if_neg (by decide), if_pos rfl]
      exact run_bind_ok hword _
    | true =>
      have hword := run_literal ['t', 'r', 'u', 'e'] rest
      refine (run_bind_ok (run_peek (p := .char 't') (by decide) _) _).trans ?_
      rw [if_neg (by decide), if_neg (by decide), if_neg (by decide), if_neg (by decide),
        if_neg (by decide), if_pos rfl]
      exact run_bind_ok hword _
  | number n =>
    intro d rest hrest
    obtain ⟨c, cs, hc, hd⟩ := n.exists_chars
    have hrun := n.run_number hrest
    have hquote : Piece.char c ≠ .char '"' := fun heq =>
      ne_of_leads hd (by decide) (by decide) (Piece.char.inj heq)
    rw [chars]
    rw [hc, pieces_cons, List.cons_append] at hrun ⊢
    unfold value
    rw [run_bind_ok (run_peek (not_blank_of_leads hd) _), if_neg hquote,
      if_pos (hd.imp (fun h => by rw [h]) id)]
    refine (run_bind_readOn hrun _).trans ?_
    rw [reread]
    cases n.reread <;> rfl
  | string s =>
    intro d rest _
    rw [chars, quoted, pieces_cons, List.cons_append]
    unfold value
    rw [run_bind_ok (run_peek (by decide) _), if_pos rfl]
    refine (run_bind_ok rfl _).trans ?_
    exact run_bind_ok (run_stringBody s rest) _
  | array items ih =>
    intro d rest _
    rw [chars, itemChars_eq, pieces_cons, pieces_append, pieces_cons, pieces_nil, List.cons_append,
      List.append_assoc, List.singleton_append]
    unfold value
    rw [run_bind_ok (run_peek (by decide) _), if_neg (by decide), if_neg (by decide), if_pos rfl]
    refine (run_bind_ok rfl _).trans ?_
    cases d with
    | zero => rfl
    | succ d =>
      have hbody := run_arrayBody (fun j _ => opens_chars j)
        (fun j hm rest hrest => ih j hm d rest hrest) rest
      refine (run_bind_readOn hbody _).trans ?_
      rw [reread, rereadItems_eq]
      cases items.mapM (reread · d) <;> rfl
  | fields entries ih =>
    intro d rest _
    rw [chars, entryChars_eq, pieces_cons, pieces_append, pieces_cons, pieces_nil, List.cons_append,
      List.append_assoc, List.singleton_append]
    unfold value
    rw [run_bind_ok (run_peek (by decide) _), if_neg (by decide), if_neg (by decide),
      if_neg (by decide), if_pos rfl]
    refine (run_bind_ok rfl _).trans ?_
    cases d with
    | zero => rfl
    | succ d =>
      have hbody : (objectBody (valueMember d) []).run _ = _ :=
        run_objectBody (fun e he st rest hrest => run_valueMember st (ih e he d rest hrest)) [] rest
      refine (run_bind_readOn hbody _).trans ?_
      rw [foldlM_gatherMember, reread]
      cases rereadEntries entries d with
      | error cause => rfl
      | ok es =>
        show Except.ok (object (es.reverse ++ []).reverse, rest) = Except.ok (object es, rest)
        rw [List.append_nil, List.reverse_reverse]

theorem parse_compact_eq (j : Json) : parse j.compact = j.reread maxDepth := by
  have hrun := run_value j maxDepth [] stops_nil
  rw [List.append_nil] at hrun
  rw [parse, parseText, compact, ofString_ofList, whole, hrun]
  cases j.reread maxDepth <;> rfl

/-! ## Values without floats -/

/-- The value in normal form, if it opens at most `d` brackets at one point. -/
def bounded (d : Nat) (j : Json) : Except ReadError Json :=
  if j.depth ≤ d then .ok j.normal else .error .malformed

theorem rereadItems_of_bounded {items : List Json} {d : Nat}
    (h : ∀ j ∈ items, j.reread d = bounded d j) : rereadItems items d =
      if depthItems items ≤ d then .ok (normalItems items) else .error .malformed := by
  induction items with
  | nil => rfl
  | cons j js ih =>
    obtain ⟨hj, hjs⟩ := List.forall_mem_cons.1 h
    rw [rereadItems, hj, ih hjs, bounded, depthItems, normalItems]
    by_cases hd : j.depth ≤ d
    · by_cases hds : depthItems js ≤ d
      · rw [if_pos hd, if_pos hds, if_pos (Nat.max_le.2 ⟨hd, hds⟩)]
        rfl
      · rw [if_pos hd, if_neg hds, if_neg fun h => hds (Nat.max_le.1 h).2]
        rfl
    · rw [if_neg hd, if_neg fun h => hd (Nat.max_le.1 h).1]
      rfl

theorem rereadEntries_of_bounded {entries : List (String × Json)} {d : Nat}
    (h : ∀ e ∈ entries, e.2.reread d = bounded d e.2) : rereadEntries entries d =
      if depthEntries entries ≤ d then .ok (normalEntries entries) else .error .malformed := by
  induction entries with
  | nil => rfl
  | cons e es ih =>
    obtain ⟨he, hes⟩ := List.forall_mem_cons.1 h
    rw [rereadEntries, he, ih hes, bounded, depthEntries, normalEntries]
    by_cases hd : e.2.depth ≤ d
    · by_cases hds : depthEntries es ≤ d
      · rw [if_pos hd, if_pos hds, if_pos (Nat.max_le.2 ⟨hd, hds⟩)]
        rfl
      · rw [if_pos hd, if_neg hds, if_neg fun h => hds (Nat.max_le.1 h).2]
        rfl
    · rw [if_neg hd, if_neg fun h => hd (Nat.max_le.1 h).1]
      rfl

theorem Number.reread_of_integral {n : Number} (h : (number n).Integral) : n.reread = .ok n := by
  cases n with
  | natural n => exact reread_natural n
  | negative n neg => exact reread_negative n neg
  | float x finite => exact absurd h id

/-- **A value without floats is read back** in normal form, unless it opens too many brackets. -/
theorem reread_of_integral {j : Json} : j.Integral → ∀ d, j.reread d = bounded d j := by
  induction j with
  | null | bool | string => intros; rfl
  | number n =>
    intro h d
    rw [reread, Number.reread_of_integral h]
    rfl
  | array items ih =>
    intro h d
    rw [Integral, integralItems_iff] at h
    cases d with
    | zero => rw [reread, bounded, depth, if_neg (by omega)]
    | succ d =>
      rw [reread, rereadItems_of_bounded fun j hj => ih j hj (h j hj) d, bounded, depth, normal]
      by_cases hd : depthItems items ≤ d
      · rw [if_pos hd, if_pos (Nat.succ_le_succ hd)]
        rfl
      · rw [if_neg hd, if_neg fun h => hd (Nat.le_of_succ_le_succ h)]
        rfl
  | fields entries ih =>
    intro h d
    rw [Integral, integralEntries_iff] at h
    cases d with
    | zero => rw [reread, bounded, depth, if_neg (by omega)]
    | succ d =>
      rw [reread, rereadEntries_of_bounded fun e he => ih e he (h e he) d, bounded, depth, normal]
      by_cases hd : depthEntries entries ≤ d
      · rw [if_pos hd, if_pos (Nat.succ_le_succ hd)]
        rfl
      · rw [if_neg hd, if_neg fun h => hd (Nat.le_of_succ_le_succ h)]
        rfl

theorem parse_compact {j : Json} (h : j.Integral) : parse j.compact = bounded maxDepth j := by
  rw [parse_compact_eq, reread_of_integral h]

end ModuleHost.Json
