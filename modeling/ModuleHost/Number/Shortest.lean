import ModuleHost.Number.Binary64

/-!
# The shortest decimal of a number

A finite binary64 number is written with the fewest digits that read back to it, and of those the
nearest to it. Digits are chosen first, then laid out.

* `Decimal` — digits times a power of ten;
* `readsBack` — the decimal lies among the reals that round to the number;
* `shortest` — the decimal chosen;
* `text` — its layout: positional from `1e-5` on and below `1e16`, else with an exponent.
-/

namespace ModuleHost.Number

/-- `digits * 10 ^ exp`. -/
structure Decimal where
  digits : Nat
  exp : Int
  deriving DecidableEq, Repr

/-- The order of `a * 10 ^ i` and `n * 2 ^ j`. -/
def compareScaled (a : Nat) (i : Int) (n : Nat) (j : Int) : Ordering :=
  compare (a * Nat.pow 10 i.toNat * Nat.pow 2 (-j).toNat)
    (n * Nat.pow 2 j.toNat * Nat.pow 10 (-i).toNat)

/-- Whether `d` is nearer to `m * 2 ^ q` than to its neighbours, the ends counting when `m` is
even. Below a power of two the neighbour is half as far. -/
def readsBack (m : Nat) (q : Int) (d : Decimal) : Bool :=
  let low := if m = Binary64.unit ∧ -1074 < q then 4 * m - 1 else 4 * m - 2
  let above := compareScaled d.digits d.exp low (q - 2)
  let below := compareScaled d.digits d.exp (4 * m + 2) (q - 2)
  (above == .gt || (m % 2 == 0 && above == .eq)) && (below == .lt || (m % 2 == 0 && below == .eq))

/-- `⌊m * 2 ^ q / 10 ^ e⌋`. -/
def floorAt (m : Nat) (q : Int) (e : Int) : Nat :=
  m * Nat.pow 2 q.toNat * Nat.pow 10 (-e).toNat / (Nat.pow 2 (-q).toNat * Nat.pow 10 e.toNat)

/-- The number of digits of `n`. -/
def digitCount (n : Nat) : Nat := (Nat.toDigits 10 n).length

/-- The least `k` with `m * 2 ^ q < 10 ^ k`, for positive `m`: 400 places below the point show a
digit of every number. -/
def magnitude (m : Nat) (q : Int) : Int := (digitCount (floorAt m q (-400)) : Int) - 400

/-- Of the neighbours `c * 10 ^ e` and `(c + 1) * 10 ^ e` of `m * 2 ^ q` that read back, the nearer,
and the even one of two equally near. -/
def nearer (m : Nat) (q : Int) (c : Nat) (e : Int) : Option Decimal :=
  let lower : Decimal := ⟨c, e⟩
  let upper : Decimal := ⟨c + 1, e⟩
  match readsBack m q lower, readsBack m q upper with
  | false, false => none
  | true, false => some lower
  | false, true => some upper
  | true, true =>
    match compareScaled (2 * c + 1) e (2 * m) q with
    | .gt => some lower
    | .lt => some upper
    | .eq => some (if c % 2 = 0 then lower else upper)

/-- The candidate with `n` digits, one of the two neighbours of `m * 2 ^ q` on that grid. -/
def candidate (m : Nat) (q : Int) (n : Nat) : Option Decimal :=
  let e := magnitude m q - n
  nearer m q (floorAt m q e) e

/-- The exact decimal of `m * 2 ^ q`. -/
def exactDecimal (m : Nat) (q : Int) : Decimal :=
  if 0 ≤ q then ⟨m * Nat.pow 2 q.toNat, 0⟩ else ⟨m * Nat.pow 5 (-q).toNat, q⟩

/-- Moves the trailing zeros of the digits into the exponent; `fuel` bounds their number. -/
def stripZeros : Nat → Decimal → Decimal
  | 0, d => d
  | fuel + 1, d =>
    if d.digits % 10 = 0 ∧ d.digits ≠ 0 then stripZeros fuel ⟨d.digits / 10, d.exp + 1⟩ else d

/-- The shortest decimal that reads back to `m * 2 ^ q`, for positive `m`. Seventeen digits
suffice for every number. -/
def shortest (m : Nat) (q : Int) : Decimal :=
  let d := ((List.range 17).findSome? fun n => candidate m q (n + 1)).getD (exactDecimal m q)
  stripZeros (digitCount d.digits) d

/-- The decimal digits of a natural number. -/
def digitChars (n : Nat) : List Char := Nat.toDigits 10 n

/-- The layout of a positive decimal. With `k` digits before the point, numbers with `-5 < k` and
`k ≤ 16` are positional and keep a digit after the point; others show their exponent and its
sign. -/
def layout (d : Decimal) : List Char :=
  let ds := digitChars d.digits
  let k := ds.length + d.exp
  if 0 ≤ d.exp ∧ k ≤ 16 then ds ++ List.replicate d.exp.toNat '0' ++ ['.', '0']
  else if 0 < k ∧ k ≤ 16 then ds.take k.toNat ++ '.' :: ds.drop k.toNat
  else if -5 < k ∧ k ≤ 0 then '0' :: '.' :: List.replicate (-k).toNat '0' ++ ds
  else
    let e := k - 1
    let mantissa := match ds with
      | [] => []
      | [c] => [c]
      | c :: cs => c :: '.' :: cs
    mantissa ++ 'e' :: (if e < 0 then '-' else '+') :: digitChars e.natAbs

/-- The text of a finite number. -/
def text (x : Binary64) : List Char :=
  let sign := if x.negative then ['-'] else []
  if x.unsigned = 0 then sign ++ ['0', '.', '0']
  else sign ++ layout (shortest x.scaled.1 x.scaled.2)

/-- The text of a number that is not finite. -/
def nonFiniteText (x : Binary64) : String :=
  if x.isNaN then "NaN" else if x.negative then "-inf" else "inf"

end ModuleHost.Number
