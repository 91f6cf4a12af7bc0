import Mathlib.Tactic.SplitIfs
import ModuleHost.Json.Printer
import ModuleHost.Json.Reader

/-!
# Reading written scalars

What the readers of words and strings give on text as it is written.

* `Text.pieces` — characters as text;
* `Reader.run_bind_ok` — a reader behind another;
* **`run_stringBody`**: a written string is read back.
-/

namespace ModuleHost

/-- Characters as text. -/
def Text.pieces (cs : List Char) : Text := cs.map .char

namespace Text

@[simp]
theorem pieces_nil : pieces [] = [] := rfl

@[simp]
theorem pieces_cons (c : Char) (cs : List Char) : pieces (c :: cs) = .char c :: pieces cs := rfl

@[simp]
theorem pieces_append (cs ds : List Char) : pieces (cs ++ ds) = pieces cs ++ pieces ds :=
  List.map_append

@[simp]
theorem length_pieces (cs : List Char) : (pieces cs).length = cs.length := List.length_map _

theorem ofString_ofList (cs : List Char) : ofString (String.ofList cs) = pieces cs := by
  rw [ofString, String.toList_ofList, pieces]

end Text

namespace Json.Reader

open ModuleHost.Text

variable {α β : Type} {s s' rest : Text}

/-! ## Steps of a reader -/

theorem run_bind_ok {x : Reader α} {a : α} (h : x.run s = .ok (a, s')) (f : α → Reader β) :
    (x >>= f).run s = (f a).run s' := by
  rw [StateT.run_bind, h]
  rfl

theorem run_discard {x : Reader α} {a : α} (h : x.run s = .ok (a, s')) :
    (discard x).run s = .ok ((), s') := by
  show ((fun _ => ()) <$> x).run s = _
  rw [StateT.run_map, h]
  rfl

theorem run_pure (a : α) (s : Text) : (pure a : Reader α).run s = .ok (a, s) := rfl

theorem run_blanks (s : Text) : blanks.run s = .ok ((), s.dropWhile isBlankPiece) := rfl

theorem run_next (p : Piece) (s : Text) : next.run (p :: s) = .ok (p, s) := rfl

theorem run_blanks_cons {p : Piece} (h : isBlankPiece p = false) (s : Text) :
    blanks.run (p :: s) = .ok ((), p :: s) := by
  rw [run_blanks, List.dropWhile_cons_of_neg (by simp [h])]

theorem run_peek {p : Piece} (h : isBlankPiece p = false) (s : Text) :
    peek.run (p :: s) = .ok (p, p :: s) := by
  rw [peek, run_bind_ok (run_blanks_cons h s)]
  rfl

theorem run_nextSolid {p : Piece} (h : isBlankPiece p = false) (s : Text) :
    nextSolid.run (p :: s) = .ok (p, s) := by
  rw [nextSolid, run_bind_ok (run_blanks_cons h s), run_next]

theorem run_literal (cs : List Char) (rest : Text) :
    (literal cs).run (pieces cs ++ rest) = .ok ((), rest) := by
  induction cs with
  | nil => rfl
  | cons c cs ih =>
    rw [pieces_cons, List.cons_append, literal, run_bind_ok (run_next _ _), if_pos rfl, ih]

/-! ## Strings -/

theorem hexValue?_hexDigit {n : Nat} (h : n < 16) : hexValue? (.char (hexDigit n)) = some n := by
  have hall : ∀ n : Fin 16, hexValue? (.char (hexDigit n)) = some (n : Nat) := by decide
  exact hall ⟨n, h⟩

/-- A character of a string is written as itself, by its escape, or by its number. -/
theorem escape_cases (c : Char) :
    (escape c = [c] ∧ c ≠ '"' ∧ c ≠ '\\' ∧ 0x20 ≤ c.toNat) ∨
      (∃ d, escape c = ['\\', d] ∧ d ≠ 'u' ∧ shortEscapes.lookup d = some c) ∨
        c.toNat < 0x20 ∧ escape c =
          ['\\', 'u', '0', '0', hexDigit (c.toNat / 16), hexDigit (c.toNat % 16)] := by
  unfold escape
  split
  · next h => exact .inr (.inl ⟨'"', rfl, by decide, by rw [h]; rfl⟩)
  split
  · next h => exact .inr (.inl ⟨'\\', rfl, by decide, by rw [h]; rfl⟩)
  split
  · next hquote hslash hle => exact .inl ⟨rfl, hquote, hslash, hle⟩
  split
  · next h => exact .inr (.inl ⟨'n', rfl, by decide, by rw [h]; rfl⟩)
  split
  · next h => exact .inr (.inl ⟨'r', rfl, by decide, by rw [h]; rfl⟩)
  split
  · next h => exact .inr (.inl ⟨'t', rfl, by decide, by rw [h]; rfl⟩)
  split
  · next h => exact .inr (.inl ⟨'b', rfl, by decide, by rw [h]; rfl⟩)
  split
  · next h => exact .inr (.inl ⟨'f', rfl, by decide, by rw [h]; rfl⟩)
  · exact .inr (.inr ⟨by omega, rfl⟩)

theorem run_hex4 {c : Char} (h : c.toNat < 0x20) (s : Text) :
    hex4.run (pieces ['0', '0', hexDigit (c.toNat / 16), hexDigit (c.toNat % 16)] ++ s) =
      .ok (c.toNat, s) := by
  have h0 : hexValue? (.char '0') = some 0 := by decide
  have h1 := hexValue?_hexDigit (n := c.toNat / 16) (by omega)
  have h2 := hexValue?_hexDigit (n := c.toNat % 16) (by omega)
  have hn : ((0 * 16 + 0) * 16 + c.toNat / 16) * 16 + c.toNat % 16 = c.toNat := by omega
  unfold hex4
  rw [pieces_cons, pieces_cons, pieces_cons, pieces_cons, pieces_nil]
  refine (run_bind_ok rfl _).trans ?_
  simp only [List.cons_append, List.nil_append, h0, h1, h2, hn]
  rfl

theorem run_escaped_short {c d : Char} (hu : d ≠ 'u') (h : shortEscapes.lookup d = some c)
    (s : Text) : escaped.run (.char d :: s) = .ok (c, s) := by
  unfold escaped
  rw [run_bind_ok (run_next _ _)]
  split
  · next heq => exact absurd (Piece.char.inj heq) hu
  · next d' _ heq =>
    cases heq
    rw [h]
    rfl
  · next heq => cases heq

theorem run_escaped_numbered {c : Char} (h : c.toNat < 0x20) (s : Text) :
    escaped.run (pieces ['u', '0', '0', hexDigit (c.toNat / 16), hexDigit (c.toNat % 16)] ++ s) =
      .ok (c, s) := by
  unfold escaped
  rw [pieces_cons, List.cons_append, run_bind_ok (run_next _ _)]
  refine (run_bind_ok (run_hex4 h s) _).trans ?_
  rw [if_neg (by omega), if_neg (by omega), Char.ofNat_toNat]
  rfl

theorem run_stringFrom_escape (c : Char) (fuel : Nat) (taken : List Char) (s : Text) :
    (stringFrom (fuel + 1) taken true).run (pieces (escape c) ++ s) =
      (stringFrom fuel (c :: taken) true).run s := by
  have hesc : ∀ cs, escaped.run (pieces cs ++ s) = .ok (c, s) →
      (stringFrom (fuel + 1) taken true).run (pieces ('\\' :: cs) ++ s) =
        (stringFrom fuel (c :: taken) true).run s := by
    intro cs h
    rw [pieces_cons, List.cons_append, stringFrom, run_bind_ok (run_next _ _)]
    exact run_bind_ok h _
  obtain ⟨he, hquote, hslash, hle⟩ | ⟨d, he, hu, hd⟩ | ⟨hlt, he⟩ := escape_cases c <;> rw [he]
  · rw [pieces_cons, pieces_nil, List.singleton_append, stringFrom, run_bind_ok (run_next _ _)]
    split
    · next h => cases h
    · next h => exact absurd (Piece.char.inj h) hquote
    · next h => exact absurd (Piece.char.inj h) hslash
    · next c' _ _ h =>
      cases h
      rw [if_neg (by omega)]
  · exact hesc [d] (run_escaped_short hu hd s)
  · exact hesc _ (run_escaped_numbered hlt s)

theorem run_stringFrom (cs : List Char) :
    ∀ (fuel : Nat) (taken : List Char), cs.length < fuel →
      (stringFrom fuel taken true).run (pieces (cs.flatMap escape) ++ .char '"' :: rest) =
        .ok (String.ofList (taken.reverse ++ cs), rest) := by
  induction cs with
  | nil =>
    intro fuel taken hf
    obtain ⟨fuel, rfl⟩ : ∃ n, fuel = n + 1 := ⟨fuel - 1, by omega⟩
    rw [List.append_nil]
    rfl
  | cons c cs ih =>
    intro fuel taken hf
    rw [List.length_cons] at hf
    obtain ⟨fuel, rfl⟩ : ∃ n, fuel = n + 1 := ⟨fuel - 1, by omega⟩
    rw [List.flatMap_cons, pieces_append, List.append_assoc, run_stringFrom_escape,
      ih fuel (c :: taken) (by omega), List.reverse_cons, List.append_assoc,
      List.singleton_append]

theorem length_le_flatMap_escape (cs : List Char) : cs.length ≤ (cs.flatMap escape).length := by
  induction cs with
  | nil => exact Nat.le_refl _
  | cons c cs ih =>
    have hc : 1 ≤ (escape c).length := by
      unfold escape
      split_ifs <;> simp
    rw [List.flatMap_cons, List.length_append, List.length_cons]
    omega

theorem run_stringBody (t : String) (rest : Text) :
    stringBody.run (pieces (t.toList.flatMap escape ++ ['"']) ++ rest) = .ok (t, rest) := by
  have hlen := length_le_flatMap_escape t.toList
  rw [pieces_append, pieces_cons, pieces_nil, List.append_assoc, List.singleton_append]
  unfold stringBody
  refine (run_bind_ok rfl _).trans ?_
  rw [run_stringFrom t.toList _ [] (by
    rw [List.length_append, length_pieces, List.length_cons]
    omega)]
  rw [List.reverse_nil, List.nil_append, String.ofList_toList]

end Json.Reader

end ModuleHost
