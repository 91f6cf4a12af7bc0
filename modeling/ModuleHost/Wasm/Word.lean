/-!
# Words

Guest code computes on words of 32 bits, which it reads as signed or unsigned as it needs.

* `Word`, `Word.ofBool` — a word; that of a truth value;
* `Arith`, `Arith.eval?` — the operations on two words; divisions may be undefined;
* `Word.bytes`, `Word.ofBytes` — the four bytes of a word, lowest first.
-/

namespace ModuleHost.Wasm

/-- A word of 32 bits. -/
abbrev Word := UInt32

/-- The word of a truth value. -/
def Word.ofBool (b : Bool) : Word := if b then 1 else 0

/-- An operation on two words. -/
inductive Arith where
  | add
  | sub
  | mul
  | divS
  | divU
  | remS
  | remU
  | and
  | or
  | xor
  | shl
  | shrS
  | shrU
  | rotl
  | rotr
  | eq
  | ne
  | ltS
  | ltU
  | gtS
  | gtU
  | leS
  | leU
  | geS
  | geU
  deriving DecidableEq, Repr

namespace Arith

/-- Whether a signed quotient is the one that a word does not hold. -/
def overflows (a b : Word) : Bool := a = 0x80000000 && b = 0xFFFFFFFF

/-- The value of an operation; none for a division by zero and for the one signed quotient that a
word does not hold. -/
def eval? (op : Arith) (a b : Word) : Option Word :=
  match op with
  | .add => some (a + b)
  | .sub => some (a - b)
  | .mul => some (a * b)
  | .divS =>
    if b = 0 || overflows a b then none else some (a.toInt32 / b.toInt32).toUInt32
  | .divU => if b = 0 then none else some (a / b)
  | .remS => if b = 0 then none else some (a.toInt32 % b.toInt32).toUInt32
  | .remU => if b = 0 then none else some (a % b)
  | .and => some (a &&& b)
  | .or => some (a ||| b)
  | .xor => some (a ^^^ b)
  | .shl => some (a <<< b)
  | .shrS => some (a.toInt32 >>> b.toInt32).toUInt32
  | .shrU => some (a >>> b)
  | .rotl => some (a <<< b ||| a >>> (32 - b % 32))
  | .rotr => some (a >>> b ||| a <<< (32 - b % 32))
  | .eq => some (.ofBool (a = b))
  | .ne => some (.ofBool (a ≠ b))
  | .ltS => some (.ofBool (a.toInt32 < b.toInt32))
  | .ltU => some (.ofBool (a < b))
  | .gtS => some (.ofBool (b.toInt32 < a.toInt32))
  | .gtU => some (.ofBool (b < a))
  | .leS => some (.ofBool (a.toInt32 ≤ b.toInt32))
  | .leU => some (.ofBool (a ≤ b))
  | .geS => some (.ofBool (b.toInt32 ≤ a.toInt32))
  | .geU => some (.ofBool (b ≤ a))

end Arith

namespace Word

/-- The four bytes of a word, lowest first. -/
def bytes (w : Word) : List UInt8 :=
  [w.toUInt8, (w >>> 8).toUInt8, (w >>> 16).toUInt8, (w >>> 24).toUInt8]

/-- The word of up to four bytes, lowest first. -/
def ofBytes : List UInt8 → Word
  | [] => 0
  | b :: bs => b.toUInt32 + 256 * ofBytes bs

/-- The word of bytes read as a signed number of their width. -/
def ofSignedBytes (bs : List UInt8) : Word :=
  let w := ofBytes bs
  if bs.length = 1 ∧ 0x80 ≤ w then w ||| 0xFFFFFF00
  else if bs.length = 2 ∧ 0x8000 ≤ w then w ||| 0xFFFF0000
  else w

end Word

end ModuleHost.Wasm
