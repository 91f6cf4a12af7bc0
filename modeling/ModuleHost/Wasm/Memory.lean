import ModuleHost.Bytes
import Std.Data.TreeMap

/-!
# Memories

A memory is a number of pages of bytes; what was never written reads as zero.

* `Memory` — pages, the greatest number of pages and the bytes written;
* `Memory.get`, `Memory.read?`, `Memory.write?` — one byte; the bytes of a range, and the memory
  with a range overwritten, both only for ranges inside;
* `Memory.grow?` — the memory with more pages;
* `isGuarded` — whether an access outside of a memory is left to the guard behind it;
* `Memory.get_overwrite` — what a memory holds after a write.
-/

namespace ModuleHost.Wasm

/-- The number of bytes in a page. -/
def pageSize : Nat := 65536

/-- The number of pages that addresses of 32 bits reach. -/
def maxPages : Nat := 65536

/-- The number of addresses that are reserved for a memory: as many as words tell apart. -/
def reserved : Nat := 0x100000000

/-- The number of addresses behind the reserved ones that only guard. -/
def guarded : Nat := 0x80000000

/-- Whether an access of `size` bytes at `offset` behind `base` that lies outside of the memory is
left to the guard. Code compares the base beforehand only if some base leads behind the guard, and
then with the last one that stays among the reserved addresses. -/
def isGuarded (base offset size : Nat) : Bool :=
  offset + size ≤ guarded + 1 || base + offset + size ≤ reserved

/-- A memory. -/
structure Memory where
  pages : Nat
  max : Option Nat
  /-- Whether it may pass between threads. -/
  shared : Bool := false
  /-- The bytes that were written. -/
  cells : Std.TreeMap Nat UInt8 := ∅

namespace Memory

/-- The number of bytes. -/
def size (m : Memory) : Nat := m.pages * pageSize

/-- The byte at an address. -/
def get (m : Memory) (address : Nat) : UInt8 := m.cells.getD address 0

/-- Whether a range of `n` bytes lies inside. -/
def holds (m : Memory) (start n : Nat) : Bool := start + n ≤ m.size

/-- The `n` bytes from `start` on. -/
def slice (m : Memory) (start : Nat) : Nat → Bytes
  | 0 => []
  | n + 1 => m.get start :: m.slice (start + 1) n

/-- The memory with `bytes` from `start` on. -/
def overwrite (m : Memory) (start : Nat) : Bytes → Memory
  | [] => m
  | b :: bytes => { m with cells := m.cells.insert start b }.overwrite (start + 1) bytes

@[simp]
theorem pages_overwrite (m : Memory) (start : Nat) (bytes : Bytes) :
    (m.overwrite start bytes).pages = m.pages := by
  induction bytes generalizing m start with
  | nil => rfl
  | cons b bytes ih => exact ih _ _

/-- Overwriting puts the bytes into their range and leaves every other byte. -/
theorem get_overwrite (m : Memory) (start : Nat) (bytes : Bytes) (address : Nat) :
    (m.overwrite start bytes).get address =
      if start ≤ address then (bytes[address - start]?).getD (m.get address)
      else m.get address := by
  induction bytes generalizing m start with
  | nil => simp [overwrite]
  | cons b bytes ih =>
    rw [overwrite, ih]
    by_cases h : start = address
    · subst h
      have h1 : ¬ start + 1 ≤ start := by omega
      simp [get, h1]
    · by_cases h' : start ≤ address
      · have h1 : start + 1 ≤ address := by omega
        have h2 : address - start = address - (start + 1) + 1 := by omega
        simp [get, Std.TreeMap.getD_insert, h, h', h1, h2]
      · have h1 : ¬ start + 1 ≤ address := by omega
        simp [get, Std.TreeMap.getD_insert, h, h', h1]

/-- The bytes of a range inside. -/
def read? (m : Memory) (start n : Nat) : Option Bytes :=
  if m.holds start n then some (m.slice start n) else none

/-- The memory with a range inside overwritten. -/
def write? (m : Memory) (start : Nat) (bytes : Bytes) : Option Memory :=
  if m.holds start bytes.length then some (m.overwrite start bytes) else none

/-- The memory with `n` more pages, within its bound and that of addresses. -/
def grow? (m : Memory) (n : Nat) : Option Memory :=
  if m.pages + n ≤ m.max.getD maxPages ∧ m.pages + n ≤ maxPages then
    some { m with pages := m.pages + n }
  else none

end Memory

end ModuleHost.Wasm
