import ModuleHost.Proofs.Json.Scalar

/-!
# Reading written numbers

Every number is written as a numeral: digits without a leading zero, perhaps a fraction, perhaps an
exponent. The reader of numerals takes all of it.

* `NumberText.chars` — a numeral as it is written; `NumberText.Proper` — its digits are in order;
* `Stops` — text that does not go on with a numeral;
* **`run_numeral`**: a written numeral is read back;
* **`Number.exists_numeral`**: the text of every number is a numeral, that of a float too;
* **`Number.run_number`**: the text of a number is taken as it stands; an integer is read back.
-/

namespace ModuleHost

namespace Json

open ModuleHost.Text

namespace Reader

variable {s rest : Text}

/-! ## Digits -/

/-- Text that does not go on with a digit. -/
def NoDigit (s : Text) : Prop := ∀ p ∈ s.head?, digit? p = none

/-- Text that does not go on with a numeral. -/
def Stops (s : Text) : Prop :=
  ∀ p ∈ s.head?, digit? p = none ∧ p ≠ .char '.' ∧ p ≠ .char 'e' ∧ p ≠ .char 'E'

theorem stops_nil : Stops [] := by
  intro p hp
  cases hp

theorem Stops.noDigit (h : Stops s) : NoDigit s := fun p hp => (h p hp).1

theorem noDigit_cons {c : Char} (h : digit? (.char c) = none) (s : Text) :
    NoDigit (.char c :: s) := by
  intro p hp
  obtain rfl := Option.some.inj hp
  exact h

theorem run_optional_none {p : Piece → Bool} (h : ∀ q ∈ s.head?, p q = false) :
    (optional p).run s = .ok (none, s) := by
  cases s with
  | nil => rfl
  | cons q s =>
    have hq := h q rfl
    unfold optional
    show (if p q then _ else _ : Reader _).run (q :: s) = _
    rw [hq]
    rfl

theorem run_optional_some {p : Piece → Bool} {q : Piece} (h : p q = true) (s : Text) :
    (optional p).run (q :: s) = .ok (some q, s) := by
  unfold optional
  show (if p q then _ else _ : Reader _).run (q :: s) = _
  rw [h]
  rfl

theorem digit?_digitChar {n : Nat} (h : n < 10) : digit? (.char n.digitChar) = some n := by
  have hall : ∀ n : Fin 10, digit? (.char (n : Nat).digitChar) = some (n : Nat) := by decide
  exact hall ⟨n, h⟩

theorem filterMap_digit? {ds : List Nat} (h : ∀ d ∈ ds, d < 10) :
    (pieces (ds.map Nat.digitChar)).filterMap digit? = ds := by
  induction ds with
  | nil => rfl
  | cons d ds ih =>
    obtain ⟨hd, hds⟩ := List.forall_mem_cons.1 h
    rw [List.map_cons, pieces_cons, List.filterMap_cons_some (digit?_digitChar hd), ih hds]

theorem digit?_isSome {ds : List Nat} (h : ∀ d ∈ ds, d < 10) :
    ∀ p ∈ pieces (ds.map Nat.digitChar), (digit? p).isSome := by
  intro p hp
  obtain ⟨c, hc, rfl⟩ := List.mem_map.1 hp
  obtain ⟨d, hd, rfl⟩ := List.mem_map.1 hc
  rw [digit?_digitChar (h d hd)]
  rfl

theorem run_digits {ds : List Nat} (h : ∀ d ∈ ds, d < 10) (hs : NoDigit s) :
    digits.run (pieces (ds.map Nat.digitChar) ++ s) = .ok (ds, s) := by
  have htake : s.takeWhile (fun p => (digit? p).isSome) = [] := by
    cases s with
    | nil => rfl
    | cons q s => rw [List.takeWhile_cons_of_neg (by simp [hs q rfl])]
  have hdrop : s.dropWhile (fun p => (digit? p).isSome) = s := by
    cases s with
    | nil => rfl
    | cons q s => rw [List.dropWhile_cons_of_neg (by simp [hs q rfl])]
  show Except.ok (_, _) = _
  rw [List.takeWhile_append_of_pos (digit?_isSome h),
    List.dropWhile_append_of_pos (digit?_isSome h), htake, hdrop, List.append_nil,
    filterMap_digit? h]

theorem run_someDigits {ds : List Nat} (hne : ds ≠ []) (h : ∀ d ∈ ds, d < 10) (hs : NoDigit s)
    (ended : ReadError) :
    (someDigits ended).run (pieces (ds.map Nat.digitChar) ++ s) = .ok (ds, s) := by
  obtain ⟨d, ds', rfl⟩ := List.exists_cons_of_ne_nil hne
  have hd : (digit? (.char d.digitChar)).isSome := by
    rw [digit?_digitChar (h d List.mem_cons_self)]
    rfl
  have hrun := run_digits h hs
  rw [List.map_cons, pieces_cons, List.cons_append] at hrun ⊢
  show (if (digit? (.char d.digitChar)).isSome then digits else throw .malformed :
    Reader _).run _ = _
  rw [hd, if_pos rfl, hrun]

/-! ## The digits of a natural number -/

/-- The digits of a natural number. -/
def digitsOf (n : Nat) : List Nat := if n < 10 then [n] else digitsOf (n / 10) ++ [n % 10]

theorem digitChars_eq (n : Nat) : Number.digitChars n = (digitsOf n).map Nat.digitChar := by
  fun_induction digitsOf n with
  | case1 n h => rw [Number.digitChars, Nat.toDigits_of_lt_base h, List.map_singleton]
  | case2 n h ih =>
    rw [Number.digitChars, Nat.toDigits_of_base_le (by omega) (by omega), ← Number.digitChars, ih,
      List.map_append, List.map_singleton]

theorem digitsOf_lt (n : Nat) : ∀ d ∈ digitsOf n, d < 10 := by
  fun_induction digitsOf n with
  | case1 n h => simpa using h
  | case2 n h ih =>
    intro d hd
    rcases List.mem_append.1 hd with hd | hd
    · exact ih d hd
    · rw [List.mem_singleton.1 hd]
      exact Nat.mod_lt _ (by omega)

theorem ofDigits_digitsOf (n : Nat) : ofDigits (digitsOf n) = n := by
  fun_induction digitsOf n with
  | case1 n h => simp [ofDigits]
  | case2 n h ih =>
    rw [ofDigits] at ih
    rw [ofDigits, List.foldl_append, ih, List.foldl_cons, List.foldl_nil]
    omega

theorem digitsOf_ne_nil (n : Nat) : digitsOf n ≠ [] := by
  fun_cases digitsOf n <;> simp

/-- Zero alone is written with a leading zero. -/
theorem digitsOf_head (n : Nat) : (digitsOf n).head? = some 0 → n = 0 := by
  fun_induction digitsOf n with
  | case1 n h => simp
  | case2 n h ih =>
    intro hz
    obtain ⟨d, ds, hd⟩ := List.exists_cons_of_ne_nil (digitsOf_ne_nil (n / 10))
    rw [hd, List.cons_append, List.head?_cons] at hz
    have := ih (by rw [hd, List.head?_cons, hz])
    omega

/-! ## Numerals -/

/-- The written form of an exponent. -/
def exponentChars (e : Int) : List Char :=
  'e' :: (if e < 0 then '-' else '+') :: (digitsOf e.natAbs).map Nat.digitChar

namespace NumberText

/-- The written form of a numeral. -/
def chars (t : NumberText) : List Char :=
  (if t.negative then ['-'] else []) ++ t.whole.map Nat.digitChar ++
    t.fraction.elim [] (fun ds => '.' :: ds.map Nat.digitChar) ++ t.exponent.elim [] exponentChars

/-- Digits stand on both sides of a point, and none behind a leading zero. -/
structure Proper (t : NumberText) : Prop where
  whole_ne_nil : t.whole ≠ []
  whole_lt : ∀ d ∈ t.whole, d < 10
  leading : ¬(t.whole.head? = some 0 ∧ 1 < t.whole.length)
  fraction_ne_nil : ∀ ds ∈ t.fraction, ds ≠ []
  fraction_lt : ∀ ds ∈ t.fraction, ∀ d ∈ ds, d < 10

theorem Proper.exists_chars {t : NumberText} (h : t.Proper) :
    ∃ c cs, t.chars = c :: cs ∧ (c = '-' ∨ (digit? (.char c)).isSome) := by
  obtain ⟨d, ds, hd⟩ := List.exists_cons_of_ne_nil h.whole_ne_nil
  have hlt : d < 10 := h.whole_lt d (by rw [hd]; exact List.mem_cons_self)
  cases hn : t.negative with
  | true => exact ⟨'-', _, by simp [chars, hn]; rfl, .inl rfl⟩
  | false =>
    refine ⟨d.digitChar, _, by simp [chars, hn, hd]; rfl, .inr ?_⟩
    rw [digit?_digitChar hlt]
    rfl

end NumberText

/-- The end of a numeral behind its fraction. -/
def exponentPart (ended : ReadError) (negative : Bool) (whole : List Nat)
    (fraction : Option (List Nat)) : Reader NumberText := do
  let exponent ← match ← optional (fun p => p = .char 'e' || p = .char 'E') with
    | some _ =>
      let mark ← optional (fun p => p = .char '+' || p = .char '-')
      let ds ← someDigits ended
      pure (some (if mark = some (.char '-') then -(ofDigits ds : Int) else ofDigits ds))
    | none => pure none
  return ⟨negative, whole, fraction, exponent⟩

theorem run_exponentPart (exponent : Option Int) (h : Stops rest) (ended : ReadError)
    (negative : Bool) (whole : List Nat) (fraction : Option (List Nat)) :
    (exponentPart ended negative whole fraction).run
      (pieces (exponent.elim [] exponentChars) ++ rest) =
        .ok (⟨negative, whole, fraction, exponent⟩, rest) := by
  unfold exponentPart
  cases exponent with
  | none =>
    have hmark : (optional fun p => p = .char 'e' || p = .char 'E').run rest = .ok (none, rest) :=
      run_optional_none fun q hq => by simpa using (h q hq).2.2
    refine (run_bind_ok hmark _).trans ?_
    exact run_bind_ok (run_pure none rest) _
  | some e =>
    have hdigits := run_someDigits (digitsOf_ne_nil e.natAbs) (digitsOf_lt e.natAbs) h.noDigit ended
    refine (run_bind_ok (run_optional_some (q := .char 'e') (by decide) _) _).trans ?_
    refine (run_bind_ok (run_optional_some (by by_cases he : e < 0 <;> simp [he]) _) _).trans ?_
    refine (run_bind_ok hdigits _).trans ?_
    refine (run_bind_ok (run_pure _ rest) _).trans ?_
    rw [ofDigits_digitsOf]
    by_cases he : e < 0
    · rw [if_pos (by rw [if_pos he]), Int.ofNat_natAbs_of_nonpos (Int.le_of_lt he), Int.neg_neg]
      rfl
    · rw [if_neg (by rw [if_neg he]; decide), Int.natAbs_of_nonneg (Int.not_lt.1 he)]
      rfl

theorem noDigit_behind (fraction : Option (List Nat)) (exponent : Option Int) (h : Stops rest) :
    NoDigit (pieces (fraction.elim [] (fun ds => '.' :: ds.map Nat.digitChar) ++
      exponent.elim [] exponentChars) ++ rest) := by
  cases fraction with
  | some ds => exact noDigit_cons (by decide) _
  | none =>
    cases exponent with
    | some e => exact noDigit_cons (by decide) _
    | none => exact h.noDigit

theorem run_sign {t : NumberText} (h : t.Proper) (s : Text) :
    (optional (· = .char '-')).run
      (pieces ((if t.negative then ['-'] else []) ++ t.whole.map Nat.digitChar) ++ s) =
        .ok (if t.negative then some (.char '-') else none,
          pieces (t.whole.map Nat.digitChar) ++ s) := by
  cases t.negative with
  | true => exact run_optional_some (by decide) _
  | false =>
    obtain ⟨d, ds, hd⟩ := List.exists_cons_of_ne_nil h.whole_ne_nil
    have hlt : d < 10 := h.whole_lt d (by rw [hd]; exact List.mem_cons_self)
    refine run_optional_none fun q hq => ?_
    rw [hd] at hq
    obtain rfl := Option.some.inj hq
    rw [decide_eq_false_iff_not]
    intro hc
    have hdigit := digit?_digitChar hlt
    rw [hc] at hdigit
    exact absurd hdigit (by simp [digit?])

/-- **A written numeral is read back.** -/
theorem run_numeral {t : NumberText} (h : t.Proper) (hrest : Stops rest) (ended : ReadError) :
    (numeral ended).run (pieces t.chars ++ rest) = .ok (t, rest) := by
  obtain ⟨negative, whole, fraction, exponent⟩ := t
  have hwhole := run_someDigits h.whole_ne_nil h.whole_lt
    (noDigit_behind fraction exponent hrest) ended
  have hend := run_exponentPart exponent hrest ended negative whole
  have hsign : (if negative = true then some (Piece.char '-') else none).isSome = negative := by
    cases negative <;> rfl
  unfold numeral
  rw [NumberText.chars, List.append_assoc _ _ (exponent.elim [] exponentChars), pieces_append,
    List.append_assoc, run_bind_ok (run_sign h _), run_bind_ok hwhole, if_neg h.leading]
  simp only [hsign]
  cases fraction with
  | none =>
    have hpoint : (optional (· = .char '.')).run (pieces (exponent.elim [] exponentChars) ++ rest) =
        .ok (none, pieces (exponent.elim [] exponentChars) ++ rest) := by
      refine run_optional_none fun q hq => ?_
      cases exponent with
      | none => simpa using (hrest q hq).2.1
      | some e =>
        obtain rfl := Option.some.inj hq
        decide
    refine (run_bind_ok hpoint _).trans ?_
    refine (run_bind_ok (run_pure none _) _).trans ?_
    exact hend none
  | some ds =>
    have hdigits : (some <$> someDigits ended).run
        (pieces (ds.map Nat.digitChar) ++ (pieces (exponent.elim [] exponentChars) ++ rest)) =
          .ok (some ds, pieces (exponent.elim [] exponentChars) ++ rest) := by
      have hbehind := noDigit_behind none exponent hrest
      rw [Option.elim_none, List.nil_append] at hbehind
      rw [StateT.run_map, run_someDigits (h.fraction_ne_nil ds rfl) (h.fraction_lt ds rfl) hbehind]
      rfl
    rw [Option.elim_some, pieces_append, pieces_cons, List.append_assoc, List.cons_append]
    refine (run_bind_ok (run_optional_some (by decide) _) _).trans ?_
    refine (run_bind_ok hdigits _).trans ?_
    exact hend (some ds)

end Reader

end Json

/-! ## The decimals of floats -/

namespace Number

open Json.Reader

theorem compareScaled_zero {n : Nat} (hn : 0 < n) (i j : Int) : compareScaled 0 i n j = .lt := by
  have hpos : 0 < n * Nat.pow 2 j.toNat * Nat.pow 10 (-i).toNat :=
    Nat.mul_pos (Nat.mul_pos hn (Nat.pow_pos (by omega))) (Nat.pow_pos (by omega))
  rw [compareScaled, Nat.zero_mul, Nat.zero_mul]
  exact Nat.compare_eq_lt.2 hpos

theorem digits_ne_zero_of_readsBack {m : Nat} (hm : 0 < m) {q : Int} {d : Decimal}
    (h : readsBack m q d = true) : d.digits ≠ 0 := by
  intro hz
  have hlow : 0 < if m = Binary64.unit ∧ -1074 < q then 4 * m - 1 else 4 * m - 2 := by
    split <;> omega
  simp [readsBack, hz, compareScaled_zero hlow] at h

theorem readsBack_of_nearer {m c : Nat} {q e : Int} {d : Decimal}
    (h : nearer m q c e = some d) : readsBack m q d = true := by
  cases hl : readsBack m q ⟨c, e⟩ <;> cases hu : readsBack m q ⟨c + 1, e⟩ <;>
    simp only [nearer, hl, hu] at h
  · cases h
  · cases h
    exact hu
  · cases h
    exact hl
  · split at h
    · cases h
      exact hl
    · cases h
      exact hu
    · cases h
      split <;> assumption

theorem exactDecimal_digits {m : Nat} (hm : 0 < m) (q : Int) : (exactDecimal m q).digits ≠ 0 := by
  unfold exactDecimal
  split
  · exact Nat.ne_of_gt (Nat.mul_pos hm (Nat.pow_pos (by omega)))
  · exact Nat.ne_of_gt (Nat.mul_pos hm (Nat.pow_pos (by omega)))

theorem stripZeros_digits {d : Decimal} (h : d.digits ≠ 0) (fuel : Nat) :
    (stripZeros fuel d).digits ≠ 0 := by
  fun_induction stripZeros fuel d with
  | case1 d => exact h
  | case2 d fuel hd ih => exact ih (by simp only; omega)
  | case3 d fuel hd => exact h

theorem shortest_digits {m : Nat} (hm : 0 < m) (q : Int) : (shortest m q).digits ≠ 0 := by
  unfold shortest
  refine stripZeros_digits ?_ _
  cases hd : (List.range 17).findSome? fun n => candidate m q (n + 1) with
  | none => exact exactDecimal_digits hm q
  | some d =>
    obtain ⟨n, -, hn⟩ := List.exists_of_findSome?_eq_some hd
    exact digits_ne_zero_of_readsBack hm (readsBack_of_nearer hn)

theorem scaled_pos {x : Binary64} (h : x.unsigned ≠ 0) : 0 < x.scaled.1 := by
  unfold Binary64.scaled
  split
  · next he =>
    have hunit := Nat.div_add_mod x.unsigned Binary64.unit
    rw [← Binary64.exponent, he, Nat.mul_zero, Nat.zero_add] at hunit
    show 0 < x.fraction
    rw [Binary64.fraction, hunit]
    exact Nat.pos_of_ne_zero h
  · exact Nat.lt_of_lt_of_le (by decide : 0 < Binary64.unit) (Nat.le_add_right _ _)

theorem not_leading {ds : List Nat} (h : ds.head? ≠ some 0) :
    ¬(ds.head? = some 0 ∧ 1 < ds.length) := fun hz => h hz.1

theorem exists_layout {d : Decimal} (hd : d.digits ≠ 0) :
    ∃ t : NumberText, t.Proper ∧ t.negative = false ∧ t.chars = layout d := by
  have hne := digitsOf_ne_nil d.digits
  have hlt := digitsOf_lt d.digits
  have hhead : (digitsOf d.digits).head? ≠ some 0 := fun hz => hd (digitsOf_head _ hz)
  unfold layout
  rw [digitChars_eq]
  generalize digitsOf d.digits = ds at hne hlt hhead
  obtain ⟨a, as, rfl⟩ := List.exists_cons_of_ne_nil hne
  simp only [List.length_map]
  split
  · -- zeros behind the digits
    refine ⟨⟨false, a :: as ++ List.replicate d.exp.toNat 0, some [0], none⟩, ?_, rfl, ?_⟩
    · refine ⟨by simp, ?_, not_leading (by simpa using hhead), by simp, by simp⟩
      intro c hc
      rcases List.mem_append.1 hc with hc | hc
      · exact hlt c hc
      · rw [(List.mem_replicate.1 hc).2]
        omega
    · simp [NumberText.chars]
      rfl
  split
  · -- the point between the digits
    next hexp hk =>
    have hlen : ((a :: as).length + d.exp).toNat < (a :: as).length := by omega
    have hpos : 0 < ((a :: as).length + d.exp).toNat := by omega
    generalize ((a :: as).length + d.exp).toNat = k at hlen hpos
    refine ⟨⟨false, (a :: as).take k, some ((a :: as).drop k), none⟩, ?_, rfl, ?_⟩
    · refine ⟨by simp; omega, fun c hc => hlt c (List.mem_of_mem_take hc), not_leading ?_, ?_, ?_⟩
      · rwa [List.head?_take, if_neg (by omega)]
      · rintro _ ⟨⟩
        simpa using hlen
      · rintro _ ⟨⟩ c hc
        exact hlt c (List.mem_of_mem_drop hc)
    · simp [NumberText.chars, List.map_take, List.map_drop]
  split
  · -- the point and zeros before the digits
    refine ⟨⟨false, [0],
      some (List.replicate (-((a :: as).length + d.exp)).toNat 0 ++ a :: as), none⟩, ?_, rfl, ?_⟩
    · refine ⟨by simp, by simp, by simp, ?_, ?_⟩
      · rintro _ ⟨⟩
        simp
      · rintro _ ⟨⟩ c hc
        rcases List.mem_append.1 hc with hc | hc
        · rw [(List.mem_replicate.1 hc).2]
          omega
        · exact hlt c hc
    · simp [NumberText.chars]
  · -- a digit before the point, and an exponent
    refine ⟨⟨false, [a], if as = [] then none else some as, some ((a :: as).length + d.exp - 1)⟩,
      ?_, rfl, ?_⟩
    · refine ⟨by simp, by simpa using hlt a List.mem_cons_self, by simp, ?_, ?_⟩
      · intro ds hds
        split at hds
        · cases hds
        · cases hds
          assumption
      · intro ds hds
        split at hds
        · cases hds
        · cases hds
          exact fun c hc => hlt c (List.mem_cons_of_mem _ hc)
    · cases as with
      | nil => simp [NumberText.chars, exponentChars, digitChars_eq]
      | cons b bs => simp [NumberText.chars, exponentChars, digitChars_eq]

theorem exists_text (x : Binary64) : ∃ t : NumberText, t.Proper ∧ t.chars = text x := by
  unfold text
  by_cases h : x.unsigned = 0
  · rw [if_pos h]
    refine ⟨⟨x.negative, [0], some [0], none⟩, ⟨by simp, by simp, by simp, by simp, by simp⟩, ?_⟩
    simp [NumberText.chars]
  · rw [if_neg h]
    obtain ⟨t, ht, hn, hc⟩ := exists_layout (shortest_digits (scaled_pos h) x.scaled.2)
    refine ⟨{ t with negative := x.negative }, ⟨ht.1, ht.2, ht.3, ht.4, ht.5⟩, ?_⟩
    rw [← hc]
    simp [NumberText.chars, hn]

end Number

/-! ## Numbers -/

namespace Json

open ModuleHost.Text

namespace Reader

theorem proper_integer (negative : Bool) (n : Nat) :
    NumberText.Proper ⟨negative, digitsOf n, none, none⟩ where
  whole_ne_nil := digitsOf_ne_nil n
  whole_lt := digitsOf_lt n
  leading := by
    rintro ⟨hz, hl⟩
    have hn := digitsOf_head n hz
    subst hn
    rw [digitsOf, if_pos (by omega)] at hl
    exact absurd hl (Nat.lt_irrefl 1)
  fraction_ne_nil := nofun
  fraction_lt := nofun

theorem value_natural (n : UInt64) :
    NumberText.value ⟨false, digitsOf n.toNat, none, none⟩ = .ok (.natural n) := by
  have hd := ofDigits_digitsOf n.toNat
  have hn : ofDigits (digitsOf n.toNat) ≤ maxNatural := by
    rw [hd]
    exact Nat.le_of_lt_succ n.toNat_lt
  unfold NumberText.value
  refine (if_pos ⟨rfl, rfl, hn, Bool.false_ne_true⟩).trans ?_
  rw [hd, UInt64.ofNat_toNat]

theorem value_negative (n : Int64) (neg : n < 0) :
    NumberText.value ⟨true, digitsOf n.toInt.natAbs, none, none⟩ = .ok (.negative n neg) := by
  have hneg : n.toInt < 0 := Int64.lt_iff_toInt_lt.1 neg
  have hd := ofDigits_digitsOf n.toInt.natAbs
  have hle : ofDigits (digitsOf n.toInt.natAbs) ≤ 0x8000000000000000 := by
    have := n.le_toInt
    omega
  have hof : Int64.ofInt (-(ofDigits (digitsOf n.toInt.natAbs) : Int)) = n := by
    rw [hd, Int.ofNat_natAbs_of_nonpos (Int.le_of_lt hneg), Int.neg_neg, Int64.ofInt_toInt]
  unfold NumberText.value
  refine (if_neg fun h => h.2.2.2 rfl).trans ?_
  refine (dif_pos ⟨rfl, rfl, rfl, hle, by rw [hof]; exact neg⟩).trans ?_
  simp only [hof]

theorem chars_natural (n : UInt64) :
    NumberText.chars ⟨false, digitsOf n.toNat, none, none⟩ = (Number.natural n).chars := by
  simp [NumberText.chars, Number.chars, digitChars_eq]

theorem chars_negative (n : Int64) (neg : n < 0) :
    NumberText.chars ⟨true, digitsOf n.toInt.natAbs, none, none⟩ =
      (Number.negative n neg).chars := by
  simp [NumberText.chars, Number.chars, digitChars_eq]

end Reader

namespace Number

open Reader

/-- **The text of a number is a numeral.** -/
theorem exists_numeral (n : Number) : ∃ t : NumberText, t.Proper ∧ t.chars = n.chars := by
  cases n with
  | natural n => exact ⟨_, proper_integer _ _, chars_natural n⟩
  | negative n neg => exact ⟨_, proper_integer _ _, chars_negative n neg⟩
  | float x finite => exact ModuleHost.Number.exists_text x

/-- The number that the text of a number is read as; a float may come back as another one. -/
def reread (n : Number) : Except ReadError Number := Prod.fst <$> Reader.number.run (pieces n.chars)

theorem run_numeral_value {n : Number} {t : NumberText} (ht : t.Proper) (htext : t.chars = n.chars)
    {rest : Text} (h : Stops rest) :
    Reader.number.run (pieces n.chars ++ rest) = t.value.map fun n => (n, rest) := by
  rw [← htext, Reader.number, run_bind_ok (run_numeral ht h .cut)]
  cases t.value <;> rfl

theorem reread_eq {n : Number} {t : NumberText} (ht : t.Proper) (htext : t.chars = n.chars) :
    n.reread = t.value := by
  have hrun := run_numeral_value ht htext stops_nil
  rw [List.append_nil] at hrun
  rw [reread, hrun]
  cases t.value <;> rfl

theorem reread_natural (n : UInt64) : (natural n).reread = .ok (natural n) := by
  rw [reread_eq (proper_integer _ _) (chars_natural n), value_natural]

theorem reread_negative (n : Int64) (neg : n < 0) :
    (negative n neg).reread = .ok (negative n neg) := by
  rw [reread_eq (proper_integer _ _) (chars_negative n neg), value_negative]

/-- **The text of a number is taken as it stands**, whatever is read from it. -/
theorem run_number (n : Number) {rest : Text} (h : Stops rest) :
    Reader.number.run (pieces n.chars ++ rest) = n.reread.map fun n => (n, rest) := by
  obtain ⟨t, ht, htext⟩ := n.exists_numeral
  rw [run_numeral_value ht htext h, reread_eq ht htext]

end Number

end Json

end ModuleHost
