import ModuleHost.Proofs.Text.Utf8
import ModuleHost.Wasm.Binary

/-!
# How the binary format is spelled

What a scanner does is told by a relation between values and the bytes that spell them. A value may
have several spellings: a number may have more groups than it needs.

* `Scan.Reads` — a scanner takes the bytes that spell a value, whatever follows them;
* `reads_pure`, `reads_bind`, `reads_guard` and others — scanners put together from scanners;
* `Scan.Spells`, `Scan.Steady` — the spellings that a scanner takes; what follows does not matter;
* `Numeral`, `Sized`, `Named`, `Row`, `Listed` — numbers in groups, bytes behind their length,
  names, items one behind another, counted lists;
* **`reads_natural`**, **`reads_name`**, **`reads_vector`**: the scanners take these;
* `steady_integer` — so do those of integers, for the spellings that they take.
-/

namespace ModuleHost.Wasm

namespace Scan

variable {α β : Type}

/-! ## Scanners and spellings -/

/-- A scanner takes the bytes that spell a value, and no others, whatever follows them. -/
def Reads (scan : Scan α) (Spelled : α → Bytes → Prop) : Prop :=
  ∀ s a rest, scan.run s = some (a, rest) ↔ ∃ taken, s = taken ++ rest ∧ Spelled a taken

section

variable {scan : Scan α} {P Q : α → Bytes → Prop}

theorem Reads.congr (h : Reads scan P) (hPQ : ∀ a taken, P a taken ↔ Q a taken) :
    Reads scan Q := by
  intro s a rest
  simp only [← hPQ]
  exact h s a rest

theorem reads_pure (a : α) : Reads (pure a) fun b taken => b = a ∧ taken = [] := by
  intro s b rest
  rw [StateT.run_pure, Option.pure_def, Option.some.injEq, Prod.mk.injEq]
  constructor
  · rintro ⟨rfl, rfl⟩
    exact ⟨[], rfl, rfl, rfl⟩
  · rintro ⟨_, rfl, rfl, rfl⟩
    exact ⟨rfl, rfl⟩

theorem reads_bind {f : α → Scan β} {R : α → β → Bytes → Prop} (h : Reads scan P)
    (hf : ∀ a, Reads (f a) (R a)) :
    Reads (scan >>= f) fun b taken =>
      ∃ a front back, taken = front ++ back ∧ P a front ∧ R a b back := by
  intro s b rest
  rw [StateT.run_bind, Option.bind_eq_bind, Option.bind_eq_some_iff]
  constructor
  · rintro ⟨⟨a, s'⟩, hscan, hrest⟩
    obtain ⟨front, rfl, hfront⟩ := (h _ _ _).1 hscan
    obtain ⟨back, rfl, hback⟩ := (hf a _ _ _).1 hrest
    exact ⟨front ++ back, (List.append_assoc ..).symm, a, front, back, rfl, hfront, hback⟩
  · rintro ⟨_, rfl, a, front, back, rfl, hfront, hback⟩
    exact ⟨(a, back ++ rest), (h _ _ _).2 ⟨front, List.append_assoc .., hfront⟩,
      (hf a _ _ _).2 ⟨back, rfl, hback⟩⟩

theorem reads_map {f : α → β} (h : Reads scan P) :
    Reads (do return f (← scan)) fun b taken => ∃ a, P a taken ∧ b = f a :=
  (reads_bind h fun a => reads_pure (f a)).congr fun b taken => by
    constructor
    · rintro ⟨a, front, _, rfl, ha, rfl, rfl⟩
      exact ⟨a, by rwa [List.append_nil], rfl⟩
    · rintro ⟨a, ha, rfl⟩
      exact ⟨a, taken, [], (List.append_nil _).symm, ha, rfl, rfl⟩

theorem reads_failure : Reads (failure : Scan α) fun _ _ => False := by
  intro s a rest
  constructor
  · intro h
    cases h
  · rintro ⟨_, -, h⟩
    exact h.elim

theorem guard_of {p : Prop} [Decidable p] (hp : p) : (guard p : Scan Unit) = pure () := if_pos hp

theorem guard_of_not {p : Prop} [Decidable p] (hp : ¬p) : (guard p : Scan Unit) = failure :=
  if_neg hp

theorem reads_guard (p : Prop) [Decidable p] :
    Reads (guard p : Scan Unit) fun _ taken => p ∧ taken = [] := by
  by_cases hp : p
  · rw [guard_of hp]
    exact (reads_pure ()).congr fun _ _ => by simp [hp]
  · rw [guard_of_not hp]
    exact reads_failure.congr fun _ _ => by simp [hp]

theorem reads_guarded {p : Prop} [Decidable p] (h : p → Reads scan P) :
    Reads (guard p >>= fun _ => scan) fun a taken => p ∧ P a taken := by
  by_cases hp : p
  · refine (reads_bind (reads_guard p) fun _ => h hp).congr fun a taken => ?_
    constructor
    · rintro ⟨_, _, back, rfl, ⟨_, rfl⟩, hback⟩
      exact ⟨hp, hback⟩
    · rintro ⟨_, ha⟩
      exact ⟨(), [], taken, rfl, ⟨hp, rfl⟩, ha⟩
  · rw [guard_of_not hp]
    exact reads_failure.congr fun _ _ => by simp [hp]

theorem reads_ite {p : Prop} [Decidable p] {other : Scan α} (h : p → Reads scan P)
    (hother : ¬p → Reads other Q) :
    Reads (if p then scan else other) fun a taken => p ∧ P a taken ∨ ¬p ∧ Q a taken := by
  by_cases hp : p
  · rw [if_pos hp]
    exact (h hp).congr fun _ _ => by simp [hp]
  · rw [if_neg hp]
    exact (hother hp).congr fun _ _ => by simp [hp]

theorem reads_byte : Reads byte fun b taken => taken = [b] := by
  intro s b rest
  cases s with
  | nil =>
    have hfails : byte.run [] = none := rfl
    simp [hfails]
  | cons c s =>
    have hrun : byte.run (c :: s) = some (c, s) := rfl
    simp [hrun]

theorem reads_take (n : Nat) : Reads (take n) fun a taken => a = taken ∧ taken.length = n := by
  intro s a rest
  by_cases hn : n ≤ s.length
  · have hrun : (take n).run s = some (s.take n, s.drop n) := by
      show ((guard (n ≤ s.length) : Scan Unit).run s).bind _ = _
      rw [guard_of hn]
      rfl
    rw [hrun, Option.some.injEq, Prod.mk.injEq]
    constructor
    · rintro ⟨rfl, rfl⟩
      exact ⟨_, (List.take_append_drop n s).symm, rfl, List.length_take_of_le hn⟩
    · rintro ⟨_, rfl, rfl, rfl⟩
      exact ⟨List.take_left, List.drop_left⟩
  · have hfails : (take n).run s = none := by
      show ((guard (n ≤ s.length) : Scan Unit).run s).bind _ = none
      rw [guard_of_not hn]
      rfl
    rw [hfails]
    simp only [reduceCtorEq, false_iff]
    rintro ⟨taken, rfl, -, rfl⟩
    exact hn (by simp)

end

/-! ## Spellings that a scanner takes -/

/-- A scanner takes the bytes for a value, all of them. -/
def Spells (scan : Scan α) (a : α) (bytes : Bytes) : Prop := scan.run bytes = some (a, [])

/-- What a scanner takes does not depend on what follows. -/
def Steady (scan : Scan α) : Prop := Reads scan (Spells scan)

theorem Reads.spells_iff {scan : Scan α} {P : α → Bytes → Prop} (h : Reads scan P) {a : α}
    {bytes : Bytes} : Spells scan a bytes ↔ P a bytes := by
  rw [Spells, h]
  simp

theorem all?_eq_some {scan : Scan α} {a : α} {bytes : Bytes} :
    all? scan bytes = some a ↔ Spells scan a bytes := by
  unfold all? Spells
  split
  · next hscan => rw [hscan]; simp
  · next hscan =>
    simp only [reduceCtorEq, false_iff]
    exact hscan a

theorem Reads.all?_eq_some {scan : Scan α} {P : α → Bytes → Prop} (h : Reads scan P) {a : α}
    {bytes : Bytes} : all? scan bytes = some a ↔ P a bytes :=
  Scan.all?_eq_some.trans h.spells_iff

theorem Reads.steady {scan : Scan α} {P : α → Bytes → Prop} (h : Reads scan P) : Steady scan :=
  h.congr fun _ _ => h.spells_iff.symm

theorem steady_pure (a : α) : Steady (pure a) := (reads_pure a).steady

theorem Steady.bind {scan : Scan α} {f : α → Scan β} (h : Steady scan)
    (hf : ∀ a, Steady (f a)) : Steady (scan >>= f) := (reads_bind h hf).steady

theorem steady_failure : Steady (failure : Scan α) := reads_failure.steady

theorem steady_guard (p : Prop) [Decidable p] : Steady (guard p : Scan Unit) :=
  (reads_guard p).steady

theorem Steady.ite {p : Prop} [Decidable p] {scan other : Scan α} (h : Steady scan)
    (hother : Steady other) : Steady (if p then scan else other) :=
  (reads_ite (fun _ => h) fun _ => hother).steady

theorem steady_byte : Steady byte := reads_byte.steady

theorem steady_of_first {scan : Scan α} (first : UInt8 → Scan α) (empty : scan.run [] = none)
    (run : ∀ b s, scan.run (b :: s) = (first b).run (b :: s)) (steady : ∀ b, Steady (first b))
    (takes : ∀ b a, ¬Spells (first b) a []) : Steady scan := by
  intro s a rest
  constructor
  · intro h
    cases s with
    | nil =>
      rw [empty] at h
      cases h
    | cons b s =>
      obtain ⟨taken, hs, htaken⟩ := (steady b _ _ _).1 ((run b s).symm.trans h)
      cases taken with
      | nil => exact (takes b a htaken).elim
      | cons c taken =>
        rw [List.cons_append, List.cons.injEq] at hs
        obtain ⟨rfl, rfl⟩ := hs
        exact ⟨b :: taken, rfl, (run b taken).trans htaken⟩
  · rintro ⟨taken, rfl, h⟩
    cases taken with
    | nil =>
      rw [Spells, empty] at h
      cases h
    | cons b taken =>
      rw [List.cons_append, run]
      exact (steady b _ _ _).2 ⟨b :: taken, rfl, (run b taken).symm.trans h⟩

end Scan

/-! ## Numbers -/

/-- A natural number of `width` bits in groups of seven, the lowest first. Every group but the last
is marked, and a last group may not exceed the width. -/
inductive Numeral : Nat → Nat → Bytes → Prop
  | last {width : Nat} {b : UInt8} :
      b < 0x80 → b.toNat < Nat.pow 2 width → Numeral width b.toNat [b]
  | more {width n : Nat} {b : UInt8} {bytes : Bytes} :
      0x80 ≤ b → 7 < width → Numeral (width - 7) n bytes →
        Numeral width (b.toNat - 0x80 + 0x80 * n) (b :: bytes)

namespace Scan

section

variable {bits shift width : Nat} {b : UInt8}

/-- A last group fits if its number is below the width that is left. -/
theorem fits_last (hwidth : shift + width = bits) (hb : b < 0x80) :
    (shift + 7 ≤ bits ∨ b.toNat < Nat.pow 2 (bits - shift)) ↔ b.toNat < Nat.pow 2 width := by
  have hleft : bits - shift = width := by omega
  have hlt : b.toNat < 2 ^ 7 := UInt8.lt_iff_toNat_lt.1 hb
  rw [hleft]
  refine ⟨fun h => h.elim (fun hroom => ?_) id, .inr⟩
  exact Nat.lt_of_lt_of_le hlt (Nat.pow_le_pow_right (by decide) (by omega))

theorem fits_marked (hwidth : shift + width = bits) (hmod : width % 7 ≠ 0) (hb : 0x80 ≤ b) :
    (shift + 7 ≤ bits ∨ b.toNat < Nat.pow 2 (bits - shift)) ↔ 7 < width := by
  have hleft : bits - shift = width := by omega
  have hge : 2 ^ 7 ≤ b.toNat := UInt8.le_iff_toNat_le.1 hb
  rw [hleft]
  refine ⟨fun h => h.elim (fun hroom => by omega) fun hlt => ?_, fun h => .inl (by omega)⟩
  have hpow : 2 ^ 7 < 2 ^ width := Nat.lt_of_le_of_lt hge hlt
  exact (Nat.pow_lt_pow_iff_right (by decide)).1 hpow

end

theorem reads_naturalFrom {bits : Nat} (fuel : Nat) :
    ∀ {shift width : Nat}, shift + width = bits → width % 7 ≠ 0 → width / 7 < fuel →
      Reads (naturalFrom bits fuel shift) fun n taken =>
        ∃ m, Numeral width m taken ∧ n = m * Nat.pow 2 shift := by
  induction fuel with
  | zero => exact fun _ _ h => absurd h (Nat.not_lt_zero _)
  | succ fuel ih =>
    intro shift width hwidth hmod hfuel
    have hnext : Nat.pow 2 (shift + 7) = 0x80 * Nat.pow 2 shift := by
      rw [Nat.pow_eq, Nat.pow_eq, Nat.pow_add, Nat.mul_comm]
    have hrest : ∀ b : UInt8, ¬b < 0x80 →
        (shift + 7 ≤ bits ∨ b.toNat < Nat.pow 2 (bits - shift)) →
        Reads (naturalFrom bits fuel (shift + 7)) fun n taken =>
          ∃ m, Numeral (width - 7) m taken ∧ n = m * Nat.pow 2 (shift + 7) := fun b hb hfits => by
      have hmore := (fits_marked hwidth hmod (UInt8.not_lt.1 hb)).1 hfits
      exact ih (by omega) (by omega) (by omega)
    refine (reads_bind reads_byte fun b => reads_guarded fun hfits =>
      reads_ite (fun _ => reads_pure _) fun hb => reads_map (hrest b hb hfits)).congr
        fun n taken => ?_
    constructor
    · rintro ⟨b, _, back, rfl, rfl, hfits, ⟨hb, rfl, rfl⟩ | ⟨hb, _, ⟨m, hm, rfl⟩, rfl⟩⟩
      · exact ⟨_, .last hb ((fits_last hwidth hb).1 hfits), rfl⟩
      · have hb' := UInt8.not_lt.1 hb
        refine ⟨_, .more hb' ((fits_marked hwidth hmod hb').1 hfits) hm, ?_⟩
        rw [hnext, Nat.add_mul, Nat.mul_left_comm, Nat.mul_assoc]
    · rintro ⟨_, hm, rfl⟩
      cases hm with
      | @last _ b hb hfits =>
        exact ⟨b, [b], [], rfl, rfl, (fits_last hwidth hb).2 hfits, .inl ⟨hb, rfl, rfl⟩⟩
      | @more _ m b back hb hroom hm =>
        refine ⟨b, [b], back, rfl, rfl, (fits_marked hwidth hmod hb).2 hroom,
          .inr ⟨UInt8.not_lt.2 hb, _, ⟨m, hm, rfl⟩, ?_⟩⟩
        rw [hnext, Nat.add_mul, Nat.mul_left_comm, Nat.mul_assoc]

/-- **Natural numbers of a width.** -/
theorem reads_natural {bits : Nat} (hmod : bits % 7 ≠ 0) : Reads (natural bits) (Numeral bits) :=
  (reads_naturalFrom (bits / 7 + 1) (Nat.zero_add bits) hmod (Nat.lt_succ_self _)).congr
    fun n taken => by
      constructor
      · rintro ⟨m, hm, rfl⟩
        rwa [Nat.pow_eq, Nat.pow_zero, Nat.mul_one]
      · exact fun hn => ⟨n, hn, (Nat.mul_one n).symm⟩

theorem reads_u32 : Reads u32 (Numeral 32) := reads_natural (by decide)

theorem steady_integerFrom (bits fuel : Nat) : ∀ shift, Steady (integerFrom bits fuel shift) := by
  induction fuel with
  | zero => exact fun _ => steady_failure
  | succ fuel ih =>
    intro shift
    rw [integerFrom]
    exact steady_byte.bind fun b =>
      .ite (.ite (steady_pure _) (.ite (steady_pure _) ((ih _).bind fun _ => steady_pure _)))
        (.ite (steady_pure _) (.ite (steady_pure _) steady_failure))

theorem steady_integer (bits : Nat) : Steady (integer bits) := steady_integerFrom _ _ _

end Scan

/-! ## Bytes behind their length, names and lists -/

/-- Bytes with their length before them. -/
def Sized (payload bytes : Bytes) : Prop :=
  ∃ length, bytes = length ++ payload ∧ Numeral 32 payload.length length

/-- The bytes of a name with their length before them; there may not be too many. -/
def Named (name : String) (bytes : Bytes) : Prop :=
  (Text.bytes name).length ≤ Scan.maxName ∧ Sized (Text.bytes name) bytes

/-- Items one behind another. -/
inductive Row {α : Type} (Spelled : α → Bytes → Prop) : List α → Bytes → Prop
  | nil : Row Spelled [] []
  | cons {a : α} {as : List α} {front back : Bytes} :
      Spelled a front → Row Spelled as back → Row Spelled (a :: as) (front ++ back)

/-- Items one behind another with their number before them. -/
def Listed {α : Type} (Spelled : α → Bytes → Prop) (as : List α) (bytes : Bytes) : Prop :=
  ∃ count row, bytes = count ++ row ∧ Numeral 32 as.length count ∧ Row Spelled as row

namespace Scan

variable {α : Type} {item : Scan α} {Spelled : α → Bytes → Prop}

theorem reads_sized : Reads (do take (← u32)) Sized :=
  (reads_bind reads_u32 reads_take).congr fun payload taken => by
    constructor
    · rintro ⟨n, length, _, rfl, hn, rfl, rfl⟩
      exact ⟨length, rfl, hn⟩
    · rintro ⟨length, rfl, hlength⟩
      exact ⟨_, length, payload, rfl, hlength, rfl, rfl⟩

theorem reads_strict (bytes : Bytes) :
    Reads (match Text.strict? bytes with
      | some s => return s
      | none => failure : Scan String) fun s taken => bytes = Text.bytes s ∧ taken = [] := by
  cases hs : Text.strict? bytes with
  | none =>
    refine reads_failure.congr fun s taken => ?_
    rw [← Text.strict?_eq_some, hs]
    simp
  | some t =>
    refine (reads_pure t).congr fun s taken => ?_
    rw [← Text.strict?_eq_some, hs, Option.some.injEq, eq_comm (a := s)]

/-- **Names.** -/
theorem reads_name : Reads name Named := by
  unfold name
  refine (reads_bind reads_u32 fun n => reads_guarded fun _ => reads_bind (reads_take n)
    fun bytes => reads_strict bytes).congr fun s taken => ?_
  constructor
  · rintro ⟨n, length, _, rfl, hn, hmax, _, _, _, rfl, ⟨rfl, rfl⟩, rfl, rfl⟩
    rw [List.append_nil]
    exact ⟨hmax, length, rfl, hn⟩
  · rintro ⟨hmax, length, rfl, hn⟩
    exact ⟨_, length, _, rfl, hn, hmax, _, _, [], (List.append_nil _).symm, ⟨rfl, rfl⟩, rfl, rfl⟩

theorem reads_items (h : Reads item Spelled) (n : Nat) :
    Reads (items item n) fun as taken => as.length = n ∧ Row Spelled as taken := by
  induction n with
  | zero =>
    refine (reads_pure []).congr fun as taken => ?_
    constructor
    · rintro ⟨rfl, rfl⟩
      exact ⟨rfl, .nil⟩
    · rintro ⟨hlength, hrow⟩
      obtain rfl := List.eq_nil_of_length_eq_zero hlength
      cases hrow
      exact ⟨rfl, rfl⟩
  | succ n ih =>
    refine (reads_bind h fun a => reads_map ih).congr fun as taken => ?_
    constructor
    · rintro ⟨a, front, back, rfl, ha, as, ⟨rfl, has⟩, rfl⟩
      exact ⟨rfl, .cons ha has⟩
    · rintro ⟨hlength, hrow⟩
      cases hrow with
      | nil => cases hlength
      | @cons a as front back ha has =>
        exact ⟨a, front, back, rfl, ha, as, ⟨Nat.succ.inj hlength, has⟩, rfl⟩

/-- **Counted lists.** -/
theorem reads_vector (h : Reads item Spelled) : Reads (vector item) (Listed Spelled) :=
  (reads_bind reads_u32 fun n => reads_items h n).congr fun as taken => by
    constructor
    · rintro ⟨_, count, row, rfl, hn, rfl, hrow⟩
      exact ⟨count, row, rfl, hn, hrow⟩
    · rintro ⟨count, row, rfl, hn, hrow⟩
      exact ⟨_, count, row, rfl, hn, rfl, hrow⟩

end Scan

end ModuleHost.Wasm
