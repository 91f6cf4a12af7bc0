import ModuleHost.Wasm.Memory
import ModuleHost.Wasm.Word

/-!
# Reading what was written

* `Word.ofBytes_bytes` — the word of the bytes of a word;
* `Memory.slice_congr` — a range with the same bytes;
* `Memory.slice_overwrite`, `Memory.slice_overwrite_apart` — a range that was overwritten, and one
  that is apart from it;
* `Memory.get_of_write?`, `Memory.pages_of_write?` — what a write leaves as it was;
* `Memory.read?_of_write?`, `Memory.read?_of_write?_apart` — the same for ranges that are checked.
-/

namespace ModuleHost.Wasm

/-- Two ranges of addresses, each given by its start and its length, have no address in common. -/
def Apart (start n start' n' : Nat) : Prop := start + n ≤ start' ∨ start' + n' ≤ start

theorem Word.ofBytes_bytes (w : Word) : Word.ofBytes w.bytes = w := by
  apply UInt32.toNat_inj.1
  have h := w.toNat_lt
  simp only [ofBytes, bytes, UInt32.toNat_add, UInt32.toNat_mul, UInt8.toNat_toUInt32,
    UInt32.toNat_toUInt8, UInt32.toNat_shiftRight, Nat.shiftRight_eq_div_pow, UInt32.reduceToNat,
    Nat.reduceMod, Nat.reducePow]
  omega

namespace Memory

variable {m m' : Memory} {start : Nat} {bytes : Bytes}

theorem length_slice (m : Memory) (start n : Nat) : (m.slice start n).length = n := by
  induction n generalizing start with
  | zero => rfl
  | succ n ih => rw [slice, List.length_cons, ih]

theorem slice_congr {start n : Nat}
    (h : ∀ address, start ≤ address → address < start + n → m'.get address = m.get address) :
    m'.slice start n = m.slice start n := by
  induction n generalizing start with
  | zero => rfl
  | succ n ih =>
    rw [slice, slice, h start (Nat.le_refl _) (by omega),
      ih fun address hle hlt => h address (by omega) (by omega)]

theorem slice_overwrite_apart (m : Memory) {start : Nat} {bytes : Bytes} {start' n : Nat}
    (h : Apart start bytes.length start' n) :
    (m.overwrite start bytes).slice start' n = m.slice start' n := by
  induction n generalizing start' with
  | zero => rfl
  | succ n ih =>
    have hhead : (m.overwrite start bytes).get start' = m.get start' := by
      rw [get_overwrite]
      split
      · next hle =>
        have hout : bytes.length ≤ start' - start := by
          unfold Apart at h
          omega
        rw [List.getElem?_eq_none hout, Option.getD_none]
      · rfl
    have htail : Apart start bytes.length (start' + 1) n := by
      unfold Apart at h ⊢
      omega
    rw [slice, slice, hhead, ih htail]

theorem slice_overwrite (m : Memory) (start : Nat) (bytes : Bytes) :
    (m.overwrite start bytes).slice start bytes.length = bytes := by
  induction bytes generalizing m start with
  | nil => rfl
  | cons b bytes ih =>
    rw [List.length_cons, slice, get_overwrite, overwrite, ih]
    simp

theorem get_of_write? (h : m.write? start bytes = some m') {address : Nat}
    (outside : address < start ∨ start + bytes.length ≤ address) :
    m'.get address = m.get address := by
  unfold write? at h
  split at h
  · cases h
    rw [get_overwrite]
    split
    · have hout : bytes.length ≤ address - start := by omega
      rw [List.getElem?_eq_none hout, Option.getD_none]
    · rfl
  · cases h

theorem pages_of_write? (h : m.write? start bytes = some m') : m'.pages = m.pages := by
  unfold write? at h
  split at h
  · cases h
    exact pages_overwrite m start bytes
  · cases h

theorem read?_of_write? (h : m.write? start bytes = some m') :
    m'.read? start bytes.length = some bytes := by
  unfold write? at h
  split at h
  · next holds =>
    cases h
    have holds' : (m.overwrite start bytes).holds start bytes.length = true := by
      rwa [Memory.holds, Memory.size, pages_overwrite, ← Memory.size, ← Memory.holds]
    rw [read?, if_pos holds', slice_overwrite]
  · cases h

theorem read?_of_write?_apart (h : m.write? start bytes = some m') {start' n : Nat}
    (apart : Apart start bytes.length start' n) : m'.read? start' n = m.read? start' n := by
  unfold write? at h
  split at h
  · cases h
    rw [read?, read?, slice_overwrite_apart m apart, Memory.holds, Memory.size, pages_overwrite,
      ← Memory.size, ← Memory.holds]
  · cases h

end Memory

end ModuleHost.Wasm
