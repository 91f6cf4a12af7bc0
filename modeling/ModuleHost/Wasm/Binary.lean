import ModuleHost.Bytes
import ModuleHost.Text.Utf8

/-!
# Parts of the binary format

Scanners take bytes from the left; a scanner that fails takes no part in what follows.

* `Scan`, `Scan.all?` — a scanner; the scanning of a whole run of bytes;
* `Scan.byte`, `Scan.take` — one byte; a number of bytes;
* `Scan.natural`, `Scan.integer` — numbers of a width in groups of seven bits;
* `Scan.name`, `Scan.vector` — a text; a counted list.
-/

namespace ModuleHost.Wasm

/-- A scanner of values of type `α`. -/
abbrev Scan (α : Type) := StateT Bytes Option α

namespace Scan

variable {α : Type}

/-- Takes one byte. -/
def byte : Scan UInt8 := do
  match ← get with
  | [] => failure
  | b :: rest => set rest; return b

/-- Takes `n` bytes. -/
def take (n : Nat) : Scan Bytes := do
  let s ← get
  guard (n ≤ s.length)
  set (s.drop n)
  return s.take n

/-- Takes the bytes that are left. -/
def remaining : Scan Bytes := do
  let s ← get
  set ([] : Bytes)
  return s

/-- The groups of a natural number of `bits` bits from place `shift` on. A last group may not
exceed the width. -/
def naturalFrom (bits : Nat) : Nat → Nat → Scan Nat
  | 0, _ => failure
  | fuel + 1, shift => do
    let b ← byte
    guard (shift + 7 ≤ bits ∨ b.toNat < Nat.pow 2 (bits - shift))
    if b < 0x80 then return b.toNat * Nat.pow 2 shift
    else return (b.toNat - 0x80) * Nat.pow 2 shift + (← naturalFrom bits fuel (shift + 7))

/-- Takes a natural number of `bits` bits. -/
def natural (bits : Nat) : Scan Nat := naturalFrom bits (bits / 7 + 1) 0

/-- Takes a natural number of 32 bits. -/
def u32 : Scan Nat := natural 32

/-- The groups of an integer of `bits` bits from place `shift` on. The bits of a last group beyond
the width repeat the sign. -/
def integerFrom (bits : Nat) : Nat → Nat → Scan Int
  | 0, _ => failure
  | fuel + 1, shift => do
    let b ← byte
    if shift + 7 ≤ bits then
      if b < 0x40 then return b.toNat * Nat.pow 2 shift
      else if b < 0x80 then return (b.toNat - 0x80 : Int) * Nat.pow 2 shift
      else return (b.toNat - 0x80) * Nat.pow 2 shift + (← integerFrom bits fuel (shift + 7))
    else
      let half := Nat.pow 2 (bits - shift - 1)
      if b.toNat < half then return b.toNat * Nat.pow 2 shift
      else if 0x80 - half ≤ b.toNat ∧ b < 0x80 then
        return (b.toNat - 0x80 : Int) * Nat.pow 2 shift
      else failure

/-- Takes an integer of `bits` bits. -/
def integer (bits : Nat) : Scan Int := integerFrom bits (bits / 7 + 1) 0

/-- The greatest number of bytes in a name. -/
def maxName : Nat := 100000

/-- Takes a name: its length, then its bytes, which must be text. -/
def name : Scan String := do
  let n ← u32
  guard (n ≤ maxName)
  match Text.strict? (← take n) with
  | some s => return s
  | none => failure

/-- Takes `n` items. -/
def items (item : Scan α) : Nat → Scan (List α)
  | 0 => return []
  | n + 1 => do
    let a ← item
    return a :: (← items item n)

/-- Takes a counted list. -/
def vector (item : Scan α) : Scan (List α) := do
  items item (← u32)

/-- The value that a scanner takes from the whole of the bytes. -/
def all? (scan : Scan α) (bytes : Bytes) : Option α :=
  match scan.run bytes with
  | some (a, []) => some a
  | _ => none

end Scan

end ModuleHost.Wasm
