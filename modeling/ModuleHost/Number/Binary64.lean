/-!
# Binary64 numbers

A number of the IEEE 754 format binary64, held as its bit pattern, with exact integer arithmetic
behind every operation.

* `Binary64` — the pattern; `negative`, `isFinite`, `isNaN`, `isInfinite`, `neg`;
* `Binary64.scaled` — the magnitude of a finite number as a natural number times a power of two;
* `Binary64.ofRatio` — the number nearest to a quotient, ties to even, infinity on overflow;
* `Binary64.times`, `Binary64.quotient`, `Binary64.ofInt` — products, quotients and integers;
* `Binary64.same` — equality of numbers: the two zeros are equal, a NaN equals nothing.
-/

namespace ModuleHost

/-- A binary64 number, given by its bits. -/
structure Binary64 where
  bits : UInt64
  deriving DecidableEq, Repr

namespace Binary64

/-- The number of fractions, the 52nd power of two. -/
def unit : Nat := 0x10000000000000

/-- The sign bit. -/
def negative (x : Binary64) : Bool := 0x8000000000000000 ≤ x.bits

/-- The pattern without its sign. -/
def unsigned (x : Binary64) : Nat := (x.bits &&& 0x7FFFFFFFFFFFFFFF).toNat

/-- The exponent field. -/
def exponent (x : Binary64) : Nat := x.unsigned / unit

/-- The fraction field. -/
def fraction (x : Binary64) : Nat := x.unsigned % unit

/-- Neither infinite nor a NaN. -/
def isFinite (x : Binary64) : Bool := x.exponent < 0x7FF

def isInfinite (x : Binary64) : Bool := x.unsigned = 0x7FF * unit

def isNaN (x : Binary64) : Bool := 0x7FF * unit < x.unsigned

/-- The same magnitude with the other sign. -/
def neg (x : Binary64) : Binary64 := ⟨x.bits ^^^ 0x8000000000000000⟩

/-- The magnitude `m * 2 ^ q` of a finite number, as `(m, q)`. -/
def scaled (x : Binary64) : Nat × Int :=
  if x.exponent = 0 then (x.fraction, -1074) else (unit + x.fraction, (x.exponent : Int) - 1075)

/-! ## Rounding -/

/-- The integer nearest to `num / den`, a half going to the even neighbour. -/
def roundDiv (num den : Nat) : Nat :=
  let q := num / den
  let r := num % den
  if 2 * r < den then q else if den < 2 * r then q + 1 else q + q % 2

/-- The greatest `l` with `2 ^ l * den ≤ num`, for positive `num` and `den`. -/
def log2Ratio (num den : Nat) : Int :=
  let l : Int := (num.log2 : Int) - den.log2
  if den * Nat.pow 2 l.toNat ≤ num * Nat.pow 2 (-l).toNat then l else l - 1

/-- The pattern of infinity. -/
def infinityBits : Nat := 0x7FF * unit

/-- The pattern of the number nearest to `num / den`. A carry out of the fraction moves into the
exponent field by itself. -/
def nearestBits (num den : Nat) : Nat :=
  if num = 0 then 0
  else
    let q := max (log2Ratio num den - 52) (-1074)
    let m := roundDiv (num * Nat.pow 2 (-q).toNat) (den * Nat.pow 2 q.toNat)
    min ((q + 1074).toNat * unit + m) infinityBits

/-- The number nearest to `num / den`, for positive `den`. -/
def ofRatio (num den : Nat) : Binary64 := ⟨UInt64.ofNat (nearestBits num den)⟩

/-- The number nearest to `m * 2 ^ q`. -/
def ofScaled (m : Nat) (q : Int) : Binary64 :=
  ofRatio (m * Nat.pow 2 q.toNat) (Nat.pow 2 (-q).toNat)

/-- The number nearest to a natural number. -/
def ofNat (n : Nat) : Binary64 := ofRatio n 1

/-- The number nearest to an integer. -/
def ofInt (n : Int) : Binary64 := if n < 0 then (ofNat n.natAbs).neg else ofNat n.natAbs

/-- The product of the magnitudes of two finite numbers, rounded. -/
def times (x y : Binary64) : Binary64 :=
  ofScaled (x.scaled.1 * y.scaled.1) (x.scaled.2 + y.scaled.2)

/-- The quotient of the magnitudes of two finite numbers, rounded; `y` is not zero. -/
def quotient (x y : Binary64) : Binary64 :=
  let q := x.scaled.2 - y.scaled.2
  ofRatio (x.scaled.1 * Nat.pow 2 q.toNat) (y.scaled.1 * Nat.pow 2 (-q).toNat)

/-- Equality of numbers. -/
def same (x y : Binary64) : Bool :=
  !x.isNaN && !y.isNaN && (x.bits = y.bits || x.unsigned = 0 && y.unsigned = 0)

end Binary64

end ModuleHost
