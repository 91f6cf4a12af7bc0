import Mathlib.Tactic.SplitIfs
import ModuleHost.Proofs.Json.Scalar

/-!
# Bytes of a text

The UTF-8 reading takes the bytes of a text for that text, and no others.

* `leading`, `group` — a character without its last bits; six of its bits as a byte;
* `Begun.Covers`, `decodeFrom_groups`, `groups_of_decodeFrom` — the bytes that complete a character;
* `Leads`, `Begins` — the first byte of a character of several bytes;
* **`decode_eq_pieces`**: bytes are read as characters if and only if they are their bytes;
* `strict?_eq_some`, `decode_bytes` — the bytes of a string.
-/

namespace ModuleHost.Text

theorem decodeFrom_cons (s : Option Begun) (b : UInt8) (rest : List UInt8) :
    decodeFrom s (b :: rest) = (step s b).1 ++ decodeFrom (step s b).2 rest := by
  cases s <;> rfl

theorem char_cons_eq_pieces {c : Char} {t : Text} {cs : List Char} (h : .char c :: t = pieces cs) :
    ∃ ds, cs = c :: ds ∧ t = pieces ds := by
  obtain ⟨d, ds, rfl, hd, hds⟩ := List.map_eq_cons_iff.1 h.symm
  exact ⟨ds, by rw [Piece.char.inj hd], hds.symm⟩

theorem broken_cons_ne_pieces (w : Nat) (t : Text) (cs : List Char) :
    .broken w :: t ≠ pieces cs := by
  intro h
  obtain ⟨d, ds, -, hd, -⟩ := List.map_eq_cons_iff.1 h.symm
  exact Piece.noConfusion hd

/-! ## Bytes that continue a character -/

/-- A number without its last `n` groups of six bits. -/
def leading (v : Nat) : Nat → Nat
  | 0 => v
  | n + 1 => leading v n / 64

/-- Six bits of a number, `n` groups from the last, as a byte that continues a character. -/
def group (v n : Nat) : UInt8 := UInt8.ofNat (leading v n % 64 + 0x80)

/-- The last `n` groups of a number. -/
def groups (v : Nat) : Nat → List UInt8
  | 0 => []
  | n + 1 => group v n :: groups v n

theorem toNat_group (v n : Nat) : (group v n).toNat = leading v n % 64 + 0x80 := by
  rw [group, UInt8.toNat_ofNat']
  omega

/-- One more byte than `n` is to come of a character, and it continues it. -/
structure Begun.Due (s : Begun) (n : Nat) : Prop where
  owed : s.owed = n + 1
  low : 0x80 ≤ s.low
  high : s.high ≤ 0xBF

/-- The character begun may have the value `v`: what has come of it is the front of `v`, and the
next group of `v` is within bounds. -/
structure Begun.Covers (s : Begun) (n v : Nat) : Prop where
  front : leading v (n + 1) = s.value
  next : s.accepts (group v n) = true

variable {s : Begun} {n v : Nat}

theorem accepts_iff {b : UInt8} :
    s.accepts b = true ↔ s.low.toNat ≤ b.toNat ∧ b.toNat ≤ s.high.toNat := by
  rw [Begun.accepts, Bool.and_eq_true, decide_eq_true_eq, decide_eq_true_eq]
  exact .rfl

theorem Begun.Due.push (h : s.Due (n + 1)) (b : UInt8) : (s.push b).Due n where
  owed := by
    show s.owed - 1 = n + 1
    rw [h.owed, Nat.add_sub_cancel]
  low := UInt8.le_refl _
  high := UInt8.le_refl _

theorem Begun.Covers.value_push (h : s.Covers n v) :
    (s.push (group v n)).value = leading v n := by
  show s.value * 64 + ((group v n).toNat - 0x80) = leading v n
  rw [toNat_group, ← h.front, leading]
  omega

theorem Begun.Covers.push (h : s.Covers (n + 1) v) : (s.push (group v (n + 1))).Covers n v where
  front := h.value_push.symm
  next := by
    rw [accepts_iff, toNat_group]
    have hmod : leading v n % 64 < 64 := Nat.mod_lt _ (by decide)
    exact ⟨Nat.le_add_left _ _, Nat.add_le_add_right (Nat.le_of_lt_succ hmod) _⟩

/-- The byte that has come is the group of the value that it makes. -/
theorem Begun.Due.group_eq (h : s.Due n) {b : UInt8} (hb : s.accepts b = true)
    (hv : leading v n = (s.push b).value) : group v n = b ∧ s.Covers n v := by
  obtain ⟨hlow, hhigh⟩ := accepts_iff.1 hb
  have hleast : 0x80 ≤ b.toNat := Nat.le_trans (UInt8.le_iff_toNat_le.1 h.low) hlow
  have hmost : b.toNat ≤ 0xBF := Nat.le_trans hhigh (UInt8.le_iff_toNat_le.1 h.high)
  have hvalue : leading v n = s.value * 64 + (b.toNat - 0x80) := hv
  have hgroup : group v n = b := by
    rw [← UInt8.toNat_inj, toNat_group]
    omega
  refine ⟨hgroup, ?_, hgroup ▸ hb⟩
  rw [leading]
  omega

theorem decodeFrom_groups (due : s.Due n) (h : s.Covers n v) (rest : List UInt8) :
    decodeFrom (some s) (groups v (n + 1) ++ rest) =
      .char (Char.ofNat v) :: decodeFrom none rest := by
  induction n generalizing s with
  | zero =>
    rw [groups, List.cons_append, decodeFrom_cons, step, if_pos h.next,
      if_pos (Nat.le_of_eq due.owed), h.value_push, leading]
    rfl
  | succ n ih =>
    rw [groups, List.cons_append, decodeFrom_cons, step, if_pos h.next,
      if_neg (by rw [due.owed]; omega)]
    exact ih (due.push _) h.push

theorem groups_of_decodeFrom {bs : List UInt8} {cs : List Char} (due : s.Due n)
    (h : decodeFrom (some s) bs = pieces cs) :
    ∃ v rest ds, s.Covers n v ∧ bs = groups v (n + 1) ++ rest ∧ cs = Char.ofNat v :: ds ∧
      decodeFrom none rest = pieces ds := by
  induction n generalizing s bs with
  | zero =>
    cases bs with
    | nil => exact absurd h (broken_cons_ne_pieces _ _ _)
    | cons b rest =>
      rw [decodeFrom_cons, step] at h
      split at h
      · next hb =>
        rw [if_pos (Nat.le_of_eq due.owed)] at h
        obtain ⟨ds, rfl, hrest⟩ := char_cons_eq_pieces h
        generalize hv : (s.push b).value = v
        obtain ⟨rfl, hcovers⟩ := due.group_eq (v := v) hb (by rw [hv, leading])
        exact ⟨v, rest, ds, hcovers, rfl, rfl, hrest⟩
      · exact absurd h (broken_cons_ne_pieces _ _ _)
  | succ n ih =>
    cases bs with
    | nil => exact absurd h (broken_cons_ne_pieces _ _ _)
    | cons b rest =>
      rw [decodeFrom_cons, step] at h
      split at h
      · next hb =>
        rw [if_neg (by rw [due.owed]; omega)] at h
        obtain ⟨v, rest', ds, hv, rfl, rfl, hrest⟩ := ih (due.push b) h
        obtain ⟨rfl, hcovers⟩ := due.group_eq hb hv.front
        exact ⟨v, rest', ds, hcovers, rfl, rfl, hrest⟩
      · exact absurd h (broken_cons_ne_pieces _ _ _)

/-! ## First bytes -/

/-- A character of `n + 2` bytes has the value `v`: the first byte has what is before the groups,
and a mark. -/
inductive Leads (b : UInt8) (v : Nat) : Nat → Prop
  | two (low : 0x80 ≤ v) (high : v ≤ 0x7FF) (first : b.toNat = 0xC0 + v / 64) : Leads b v 0
  | three (low : 0x800 ≤ v) (high : v ≤ 0xFFFF) (apart : v < 0xD800 ∨ 0xDFFF < v)
    (first : b.toNat = 0xE0 + v / 4096) : Leads b v 1
  | four (low : 0x10000 ≤ v) (high : v ≤ 0x10FFFF) (first : b.toNat = 0xF0 + v / 262144) :
    Leads b v 2

theorem lead_one {b : UInt8} (h : b ≤ 0x7F) :
    lead b = ([.char (Char.ofNat b.toNat)], none) := by
  rw [lead, if_pos h]

theorem lead_two {b : UInt8} (h : 0xC2 ≤ b) (h' : b ≤ 0xDF) :
    lead b = ([], some ⟨b.toNat - 0xC0, 1, 1, 0x80, 0xBF⟩) := by
  unfold lead
  grind

theorem lead_three {b : UInt8} (h : 0xE0 ≤ b) (h' : b ≤ 0xEF) :
    lead b = ([], some ⟨b.toNat - 0xE0, 1, 2, if b = 0xE0 then 0xA0 else 0x80,
      if b = 0xED then 0x9F else 0xBF⟩) := by
  by_cases hleast : b = 0xE0
  · subst hleast
    rfl
  by_cases hsurrogate : b = 0xED
  · subst hsurrogate
    rfl
  unfold lead
  grind

theorem lead_four {b : UInt8} (h : 0xF0 ≤ b) (h' : b ≤ 0xF4) :
    lead b = ([], some ⟨b.toNat - 0xF0, 1, 3, if b = 0xF0 then 0x90 else 0x80,
      if b = 0xF4 then 0x8F else 0xBF⟩) := by
  by_cases hleast : b = 0xF0
  · subst hleast
    rfl
  by_cases hmost : b = 0xF4
  · subst hmost
    rfl
  unfold lead
  grind

/-- A byte is a character, begins one of two, three or four bytes, or begins none. -/
theorem lead_sorts (b : UInt8) : b ≤ 0x7F ∨ 0xC2 ≤ b ∧ b ≤ 0xDF ∨ 0xE0 ≤ b ∧ b ≤ 0xEF ∨
    0xF0 ≤ b ∧ b ≤ 0xF4 ∨
      lead b = ([.broken 1], none) := by
  unfold lead
  grind

/-- A first byte begins a character of so many bytes, which may have just the values that the byte
leads. -/
def Begins (b : UInt8) (n : Nat) : Prop :=
  ∃ s, lead b = ([], some s) ∧ s.Due n ∧ ∀ v, s.Covers n v ↔ Leads b v n

/-- A first byte that asks for other bounds on the second byte if it is `least` or `most`. -/
theorem begins_of_lead {b least most low high : UInt8} {mark : Nat}
    (hlead : lead b = ([], some ⟨b.toNat - mark, 1, n + 1, if b = least then low else 0x80,
      if b = most then high else 0xBF⟩))
    (hlow : 0x80 ≤ low) (hhigh : high ≤ 0xBF)
    (hleads : ∀ v, Leads b v n ↔ leading v (n + 1) = b.toNat - mark ∧
      (if b.toNat = least.toNat then low.toNat else 0x80) ≤ leading v n % 64 + 0x80 ∧
        leading v n % 64 + 0x80 ≤ if b.toNat = most.toNat then high.toNat else 0xBF) :
    Begins b n := by
  refine ⟨_, hlead, ⟨rfl, ?_, ?_⟩, fun v => ?_⟩
  · dsimp only
    split
    · exact hlow
    · exact UInt8.le_refl _
  · dsimp only
    split
    · exact hhigh
    · exact UInt8.le_refl _
  · have hbound (mark x y : UInt8) : (if b = mark then x else y).toNat =
        if b.toNat = mark.toNat then x.toNat else y.toNat := by
      simp only [UInt8.toNat_inj]
      split <;> rfl
    rw [hleads, ← toNat_group]
    constructor
    · rintro ⟨hfront, hnext⟩
      rw [accepts_iff, hbound, hbound] at hnext
      exact ⟨hfront, hnext⟩
    · rintro ⟨hfront, hnext⟩
      refine ⟨hfront, ?_⟩
      rw [accepts_iff, hbound, hbound]
      exact hnext

theorem begins_two {b : UInt8} (h : 0xC2 ≤ b) (h' : b ≤ 0xDF) : Begins b 0 := by
  have hb : 0xC2 ≤ b.toNat := UInt8.le_iff_toNat_le.1 h
  have hb' : b.toNat ≤ 0xDF := UInt8.le_iff_toNat_le.1 h'
  refine ⟨_, lead_two h h', ⟨rfl, UInt8.le_refl _, UInt8.le_refl _⟩, fun v => ⟨?_, ?_⟩⟩
  · rintro ⟨hfront, -⟩
    simp only [leading] at hfront
    exact .two (by omega) (by omega) (by omega)
  · rintro ⟨hlow, hhigh, hfirst⟩
    refine ⟨by simp only [leading]; omega, accepts_iff.2 ?_⟩
    rw [toNat_group]
    show 0x80 ≤ _ ∧ _ ≤ 0xBF
    omega

theorem begins_three {b : UInt8} (h : 0xE0 ≤ b) (h' : b ≤ 0xEF) : Begins b 1 := by
  have hb : 0xE0 ≤ b.toNat := UInt8.le_iff_toNat_le.1 h
  have hb' : b.toNat ≤ 0xEF := UInt8.le_iff_toNat_le.1 h'
  refine begins_of_lead (lead_three h h') (by decide) (by decide) fun v => ?_
  simp only [leading]
  show _ ↔ _ ∧ (if b.toNat = 0xE0 then 0xA0 else 0x80) ≤ _ ∧
    _ ≤ if b.toNat = 0xED then 0x9F else 0xBF
  constructor
  · rintro ⟨hlow, hhigh, hapart, hfirst⟩
    split_ifs <;> omega
  · intro hv
    refine .three ?_ ?_ ?_ ?_
    all_goals split_ifs at hv <;> omega

theorem begins_four {b : UInt8} (h : 0xF0 ≤ b) (h' : b ≤ 0xF4) : Begins b 2 := by
  have hb : 0xF0 ≤ b.toNat := UInt8.le_iff_toNat_le.1 h
  have hb' : b.toNat ≤ 0xF4 := UInt8.le_iff_toNat_le.1 h'
  refine begins_of_lead (lead_four h h') (by decide) (by decide) fun v => ?_
  simp only [leading]
  show _ ↔ _ ∧ (if b.toNat = 0xF0 then 0x90 else 0x80) ≤ _ ∧
    _ ≤ if b.toNat = 0xF4 then 0x8F else 0xBF
  constructor
  · rintro ⟨hlow, hhigh, hfirst⟩
    split_ifs <;> omega
  · intro hv
    refine .four ?_ ?_ ?_
    all_goals split_ifs at hv <;> omega

theorem Leads.begins {b : UInt8} (h : Leads b v n) : Begins b n := by
  cases h with
  | two =>
    refine begins_two (UInt8.le_iff_toNat_le.2 ?_) (UInt8.le_iff_toNat_le.2 ?_)
    · show 0xC2 ≤ b.toNat
      omega
    · show b.toNat ≤ 0xDF
      omega
  | three =>
    refine begins_three (UInt8.le_iff_toNat_le.2 ?_) (UInt8.le_iff_toNat_le.2 ?_)
    · show 0xE0 ≤ b.toNat
      omega
    · show b.toNat ≤ 0xEF
      omega
  | four =>
    refine begins_four (UInt8.le_iff_toNat_le.2 ?_) (UInt8.le_iff_toNat_le.2 ?_)
    · show 0xF0 ≤ b.toNat
      omega
    · show b.toNat ≤ 0xF4
      omega

/-! ## Characters -/

theorem toNat_ofNat (h : v.isValidChar) : (Char.ofNat v).val.toNat = v := by
  rw [Char.ofNat, dif_pos h]
  rfl

theorem Leads.isValidChar {b : UInt8} (h : Leads b v n) : v.isValidChar := by
  unfold Nat.isValidChar
  cases h <;> omega

theorem Leads.encode_eq {b : UInt8} (h : Leads b v n) :
    String.utf8EncodeChar (Char.ofNat v) = b :: groups v (n + 1) := by
  have hv := toNat_ofNat h.isValidChar
  have hb : UInt8.ofNat b.toNat = b := UInt8.ofNat_toNat
  rw [← hb]
  simp only [String.utf8EncodeChar, hv]
  cases h with
  | two low high first =>
    rw [if_neg (by omega), if_pos (by omega)]
    simp only [groups, group, leading]
    congr 2
    omega
  | three low high apart first =>
    rw [if_neg (by omega), if_neg (by omega), if_pos (by omega)]
    simp only [groups, group, leading]
    congr 2
    omega
  | four low high first =>
    rw [if_neg (by omega), if_neg (by omega), if_neg (by omega)]
    simp only [groups, group, leading, Nat.div_div_eq_div_mul, Nat.reduceMul]
    congr 2
    omega

theorem encode_one {c : Char} (h : c.toNat ≤ 0x7F) :
    String.utf8EncodeChar c = [UInt8.ofNat c.toNat] := by
  rw [String.utf8EncodeChar]
  exact if_pos h

/-- A character is one byte, or several with a first byte that leads it. -/
theorem leads_of_char (c : Char) : c.toNat ≤ 0x7F ∨ ∃ b n, Leads b c.toNat n := by
  have hvalid : c.toNat.isValidChar := c.valid
  unfold Nat.isValidChar at hvalid
  rcases Nat.lt_or_ge 0x7F c.toNat with hseveral | hone
  case inr => exact .inl hone
  case inl =>
    have hbyte {k : Nat} (h : k < 256) : (UInt8.ofNat k).toNat = k := UInt8.toNat_ofNat_of_lt' h
    refine .inr ?_
    by_cases h2 : c.toNat ≤ 0x7FF
    · exact ⟨_, _, .two hseveral h2 (hbyte (by omega))⟩
    by_cases h3 : c.toNat ≤ 0xFFFF
    · exact ⟨_, _, .three (by omega) h3 (by omega) (hbyte (by omega))⟩
    · exact ⟨_, _, .four (by omega) (by omega) (hbyte (by omega))⟩

theorem decodeFrom_char (c : Char) (rest : List UInt8) :
    decodeFrom none (String.utf8EncodeChar c ++ rest) = .char c :: decodeFrom none rest := by
  rcases leads_of_char c with hone | ⟨b, n, hleads⟩
  · have hbyte : (UInt8.ofNat c.toNat).toNat = c.toNat :=
      UInt8.toNat_ofNat_of_lt' (Nat.lt_of_le_of_lt hone (by decide))
    rw [encode_one hone, List.singleton_append, decodeFrom_cons, step,
      lead_one (UInt8.le_iff_toNat_le.2 (by rw [hbyte]; exact hone)), hbyte, Char.ofNat_toNat]
    rfl
  · obtain ⟨s, hlead, due, hcovers⟩ := hleads.begins
    have hencode := hleads.encode_eq
    rw [Char.ofNat_toNat] at hencode
    rw [hencode, List.cons_append, decodeFrom_cons, step, hlead]
    have hgroups := decodeFrom_groups due ((hcovers _).2 hleads) rest
    rw [Char.ofNat_toNat] at hgroups
    exact hgroups

/-- Bytes that are read as characters start with those of the first one. -/
theorem char_of_decodeFrom {b : UInt8} {rest : List UInt8} {cs : List Char}
    (h : decodeFrom none (b :: rest) = pieces cs) :
    ∃ c ds rest', cs = c :: ds ∧ b :: rest = String.utf8EncodeChar c ++ rest' ∧
      decodeFrom none rest' = pieces ds := by
  have hseveral {n : Nat} (hbegins : Begins b n) : ∃ c ds rest', cs = c :: ds ∧
      b :: rest = String.utf8EncodeChar c ++ rest' ∧ decodeFrom none rest' = pieces ds := by
    obtain ⟨s, hlead, due, hcovers⟩ := hbegins
    rw [decodeFrom_cons, step, hlead] at h
    obtain ⟨v, rest', ds, hv, rfl, rfl, hrest⟩ := groups_of_decodeFrom due h
    refine ⟨_, ds, rest', rfl, ?_, hrest⟩
    rw [((hcovers v).1 hv).encode_eq, List.cons_append]
  rcases lead_sorts b with hone | ⟨h2, h2'⟩ | ⟨h3, h3'⟩ | ⟨h4, h4'⟩ | hbroken
  · rw [decodeFrom_cons, step, lead_one hone] at h
    obtain ⟨ds, rfl, hrest⟩ := char_cons_eq_pieces h
    have hle : b.toNat ≤ 0x7F := UInt8.le_iff_toNat_le.1 hone
    have hchar : (Char.ofNat b.toNat).toNat = b.toNat := toNat_ofNat (.inl (by omega))
    refine ⟨_, ds, rest, rfl, ?_, hrest⟩
    rw [encode_one (by rw [hchar]; exact hle), hchar, UInt8.ofNat_toNat]
    rfl
  · exact hseveral (begins_two h2 h2')
  · exact hseveral (begins_three h3 h3')
  · exact hseveral (begins_four h4 h4')
  · rw [decodeFrom_cons, step, hbroken] at h
    exact absurd h (broken_cons_ne_pieces _ _ _)

/-- **Bytes are read as characters if and only if they are the bytes of these.** -/
theorem decode_eq_pieces {bs : List UInt8} {cs : List Char} :
    decode bs = pieces cs ↔ bs = cs.flatMap String.utf8EncodeChar := by
  rw [decode]
  constructor
  · intro h
    induction cs generalizing bs with
    | nil =>
      cases bs with
      | nil => rfl
      | cons b rest =>
        obtain ⟨c, ds, rest', hcs, -⟩ := char_of_decodeFrom h
        cases hcs
    | cons c cs ih =>
      cases bs with
      | nil => cases h
      | cons b rest =>
        obtain ⟨c', ds, rest', hcs, hbytes, hrest⟩ := char_of_decodeFrom h
        cases hcs
        rw [hbytes, ih hrest, List.flatMap_cons]
  · rintro rfl
    induction cs with
    | nil => rfl
    | cons c cs ih => rw [List.flatMap_cons, decodeFrom_char, ih, pieces_cons]

/-! ## Strings -/

theorem toList_loop (bs : ByteArray) (i : Nat) (front : List UInt8) :
    ByteArray.toList.loop bs i front = front.reverse ++ bs.data.toList.drop i := by
  fun_induction ByteArray.toList.loop bs i front with
  | case1 i front hlt ih =>
    have hlength : i < bs.data.toList.length := by simpa using hlt
    have hget : bs.get! i = bs.data.toList[i] := by
      show bs.data[i]! = _
      rw [getElem!_pos bs.data i hlt, Array.getElem_toList]
    rw [ih, List.drop_eq_getElem_cons hlength, hget, List.reverse_cons, List.append_assoc,
      List.singleton_append]
  | case2 i front hlt =>
    rw [List.drop_eq_nil_of_le (by simpa using hlt), List.append_nil]

theorem bytes_eq (s : String) : bytes s = s.toList.flatMap String.utf8EncodeChar := by
  have hbytes : s.toUTF8.data.toList = s.toList.flatMap String.utf8EncodeChar := by
    conv => lhs; rw [← String.ofList_toList (s := s)]
    exact List.toList_data_toByteArray
  rw [bytes, ByteArray.toList, toList_loop, List.drop_zero, hbytes]
  rfl

theorem decode_bytes (s : String) : decode (bytes s) = ofString s :=
  decode_eq_pieces.2 (bytes_eq s)

theorem mapM_char?_eq_some {t : Text} {cs : List Char} :
    t.mapM Piece.char? = some cs ↔ t = pieces cs := by
  induction t generalizing cs with
  | nil => cases cs <;> simp [pieces]
  | cons p t ih =>
    rw [List.mapM_cons]
    cases p with
    | broken w => simpa [Piece.char?] using broken_cons_ne_pieces w t cs
    | char c =>
      cases cs with
      | nil => simp [Piece.char?, Option.bind_eq_some_iff]
      | cons d ds =>
        have hswap : t = pieces ds ∧ c = d ↔ c = d ∧ t = pieces ds := and_comm
        simpa [Piece.char?, Option.bind_eq_some_iff, ih] using hswap

theorem strict?_eq_some {bs : List UInt8} {s : String} : strict? bs = some s ↔ bs = bytes s := by
  rw [strict?, bytes_eq, ← decode_eq_pieces, ← mapM_char?_eq_some, Option.map_eq_some_iff]
  constructor
  · rintro ⟨cs, hcs, rfl⟩
    rw [hcs, String.toList_ofList]
  · intro h
    exact ⟨_, h, String.ofList_toList⟩

end ModuleHost.Text
