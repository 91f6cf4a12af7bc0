import ModuleHost.Proofs.Wasm.Spelling
import ModuleHost.Wasm.Types

/-!
# How imports and exports are spelled

* `steady_heapType`, `steady_refType`, `steady_valType`, `steady_limits` — the scanners of types;
* `ExternKind.code`, `ExternType.Body` — the byte of a kind; the bytes of a type behind it;
* `Import.Spelled`, `Export.Spelled` — the bytes of an entry;
* **`reads_import`**, **`reads_export`**: the scanners of entries take these.
-/

namespace ModuleHost.Wasm

open Scan

/-! ## Types -/

theorem Scan.Steady.map {α β : Type} {scan : Scan α} (h : Steady scan) (f : α → β) :
    Steady (f <$> scan) := by
  rw [map_eq_pure_bind]
  exact h.bind fun _ => steady_pure _

theorem steady_natural {bits : Nat} (hmod : bits % 7 ≠ 0) : Steady (natural bits) :=
  (reads_natural hmod).steady

theorem steady_u32 : Steady u32 := reads_u32.steady

theorem steady_family : Steady HeapType.scanFamily :=
  steady_byte.bind fun _ => (steady_guard _).bind fun _ => steady_pure _

/-- What a reference points to, by its first byte: one that is a negative number by itself stands
for a family, or for the mark before a shared one. -/
def HeapType.first (b : UInt8) : Scan HeapType :=
  if 0x40 ≤ b ∧ b < 0x80 then
    if b = 0x65 then do
      discard byte
      return .family (← scanFamily) true
    else return .family (← scanFamily) false
  else do
    let n ← integer 33
    guard (0 ≤ n ∧ n ≤ maxNumbered)
    return .numbered n.toNat

theorem familyCodes_range {b : UInt8} (h : b ∈ familyCodes) : 0x40 ≤ b ∧ b < 0x80 := by
  have hall : familyCodes.all (fun b => 0x40 ≤ b && b < 0x80) = true := by decide
  simpa using List.all_eq_true.1 hall b h

theorem run_integer_negative {b : UInt8} (hb : 0x40 ≤ b ∧ b < 0x80) (s : Bytes) :
    (integer 33).run (b :: s) = some ((b.toNat : Int) - 0x80, s) := by
  have hrun : (integer 33).run (b :: s) =
      (if b < 0x40 then return b.toNat * Nat.pow 2 0
        else if b < 0x80 then return (b.toNat - 0x80 : Int) * Nat.pow 2 0
        else return (b.toNat - 0x80) * Nat.pow 2 0 + (← integerFrom 33 4 7) : Scan Int).run s := rfl
  rw [hrun, if_neg (UInt8.not_lt.2 hb.1), if_pos hb.2]
  simp

theorem run_family_none {b : UInt8} (hb : b ∉ familyCodes) (s : Bytes) :
    HeapType.scanFamily.run (b :: s) = none := by
  have hrun : HeapType.scanFamily.run (b :: s) =
      (do guard (familyCodes.contains b); return b : Scan UInt8).run s := rfl
  rw [hrun, guard_of_not (by simpa using hb)]
  rfl

theorem run_heapType_eq (b : UInt8) (s : Bytes) :
    HeapType.scan.run (b :: s) = ((integer 33).run (b :: s)).bind fun r =>
      if 0 ≤ r.1 then
        (do guard (r.1 ≤ maxNumbered); return .numbered r.1.toNat : Scan HeapType).run r.2
      else if b = 0x65 then
        (do return .family (← HeapType.scanFamily) true : Scan HeapType).run s
      else (do return .family (← HeapType.scanFamily) false : Scan HeapType).run (b :: s) := by
  show ((integer 33).run (b :: s)).bind (fun r => StateT.run (if 0 ≤ r.1 then _ else _) r.2) = _
  refine congrArg _ (funext fun r => ?_)
  by_cases hn : 0 ≤ r.1
  · rw [if_pos hn, if_pos hn]
  · rw [if_neg hn, if_neg hn]
    by_cases hmark : b = 0x65
    · subst hmark
      rfl
    · rw [if_neg hmark]
      simp only [StateT.run_bind, StateT.run_set, Option.pure_def, Option.bind_eq_bind,
        Option.bind_some]
      split
      · next h =>
        cases h
        exact absurd rfl hmark
      · rfl

theorem run_heapType (b : UInt8) (s : Bytes) :
    HeapType.scan.run (b :: s) = (HeapType.first b).run (b :: s) := by
  rw [run_heapType_eq, HeapType.first]
  by_cases hb : 0x40 ≤ b ∧ b < 0x80
  · have hnegative : ¬(0 : Int) ≤ (b.toNat : Int) - 0x80 := by
      have hlt : b.toNat < 0x80 := UInt8.lt_iff_toNat_lt.1 hb.2
      omega
    rw [run_integer_negative hb, Option.bind_some, if_pos hb, if_neg hnegative]
    split <;> rfl
  · -- a number of several bytes or one that is not negative
    have hmark : b ≠ 0x65 := fun h => hb (by rw [h]; decide)
    have hfamily : HeapType.scanFamily.run (b :: s) = none :=
      run_family_none (fun h => hb (familyCodes_range h)) s
    rw [if_neg hb, StateT.run_bind]
    refine congrArg _ (funext fun ⟨n, rest⟩ => ?_)
    show _ = (do guard (0 ≤ n ∧ n ≤ maxNumbered); return .numbered n.toNat : Scan HeapType).run rest
    by_cases hn : 0 ≤ n
    · have hguard : (guard (0 ≤ n ∧ n ≤ maxNumbered) : Scan Unit) = guard (n ≤ maxNumbered) := by
        by_cases hmax : n ≤ maxNumbered
        · rw [guard_of hmax, guard_of ⟨hn, hmax⟩]
        · rw [guard_of_not hmax, guard_of_not fun h => hmax h.2]
      rw [if_pos hn, hguard]
    · have hguard : (guard (0 ≤ n ∧ n ≤ maxNumbered) : Scan Unit) = failure :=
        guard_of_not fun h => hn h.1
      rw [if_neg hn, if_neg hmark, StateT.run_bind, hfamily, hguard]
      rfl

theorem steady_heapType : Steady HeapType.scan := by
  refine steady_of_first HeapType.first rfl run_heapType (fun b => ?_) fun b a => ?_
  · rw [HeapType.first]
    exact .ite (.ite ((steady_byte.map _).bind fun _ => steady_family.bind fun _ => steady_pure _)
      (steady_family.bind fun _ => steady_pure _))
      ((steady_integer 33).bind fun _ => (steady_guard _).bind fun _ => steady_pure _)
  · by_cases hb : 0x40 ≤ b ∧ b < 0x80
    · rw [HeapType.first, if_pos hb, Spells]
      split <;> exact fun h => by cases h
    · rw [HeapType.first, if_neg hb]
      exact fun h => by cases h

/-- A type of references, by its first byte. -/
def RefType.first (b : UInt8) : Scan RefType :=
  if b = 0x63 then do
    discard byte
    return ⟨true, ← HeapType.scan⟩
  else if b = 0x64 then do
    discard byte
    return ⟨false, ← HeapType.scan⟩
  else return ⟨true, ← HeapType.scan⟩

theorem run_refType (b : UInt8) (s : Bytes) :
    RefType.scan.run (b :: s) = (RefType.first b).run (b :: s) := by
  rw [RefType.first]
  split
  · next h => subst h; rfl
  next hnullable =>
  split
  · next h => subst h; rfl
  next hpresent =>
  simp only [RefType.scan, StateT.run_bind, StateT.run_get, Option.pure_def, Option.bind_eq_bind,
    Option.bind_some]
  split
  · next h =>
    cases h
    exact absurd rfl hnullable
  · next h =>
    cases h
    exact absurd rfl hpresent
  · rfl

theorem steady_refType : Steady RefType.scan := by
  refine steady_of_first RefType.first rfl run_refType (fun b => ?_) fun b a => ?_
  · rw [RefType.first]
    exact .ite ((steady_byte.map _).bind fun _ => steady_heapType.bind fun _ => steady_pure _)
      (.ite ((steady_byte.map _).bind fun _ => steady_heapType.bind fun _ => steady_pure _)
        (steady_heapType.bind fun _ => steady_pure _))
  · rw [RefType.first, Spells]
    split
    · exact fun h => by cases h
    · split <;> exact fun h => by cases h

/-- A type of values, by its first byte. -/
def ValType.first (b : UInt8) : Scan ValType :=
  if numberCodes.contains b then do
    discard byte
    return .number b
  else do
    guard (referenceMarks.contains b || familyCodes.contains b)
    return .reference (← RefType.scan)

theorem run_valType (b : UInt8) (s : Bytes) :
    ValType.scan.run (b :: s) = (ValType.first b).run (b :: s) := by
  have hrun : ValType.scan.run (b :: s) = (if numberCodes.contains b then do
        set s
        return .number b
      else do
        guard (referenceMarks.contains b || familyCodes.contains b)
        return .reference (← RefType.scan) : Scan ValType).run (b :: s) := rfl
  rw [hrun, ValType.first]
  by_cases hb : numberCodes.contains b
  · rw [if_pos hb, if_pos hb]
    rfl
  · rw [if_neg hb, if_neg hb]

theorem steady_valType : Steady ValType.scan := by
  refine steady_of_first ValType.first rfl run_valType (fun b => ?_) fun b a => ?_
  · rw [ValType.first]
    exact .ite ((steady_byte.map _).bind fun _ => steady_pure _)
      ((steady_guard _).bind fun _ => steady_refType.bind fun _ => steady_pure _)
  · rw [ValType.first]
    by_cases hb : numberCodes.contains b
    · rw [if_pos hb]
      exact fun h => by cases h
    · rw [if_neg hb]
      intro h
      have hreads := reads_guarded (p := (referenceMarks.contains b || familyCodes.contains b))
        fun _ => steady_refType.bind fun type => steady_pure (ValType.reference type)
      cases (hreads.spells_iff.1 h).2

theorem steady_limits (flagBound : Nat) : Steady (Limits.scan flagBound) := by
  unfold Limits.scan
  refine steady_byte.bind fun flags => (steady_guard _).bind fun _ => ?_
  have hmin : Steady (natural (if flags.toNat.testBit 2 then 64 else 32)) :=
    steady_natural (by split <;> decide)
  have hend : ∀ limits : Limits, Steady (if flags.toNat.testBit 3 then do
      discard u32
      return limits
    else return limits) :=
    fun limits => .ite ((steady_u32.map _).bind fun _ => steady_pure _) (steady_pure _)
  exact hmin.bind fun min => .ite ((hmin.map _).bind fun max => hend _)
    ((steady_pure none).bind fun max => hend _)

theorem steady_tableType : Steady TableType.scan :=
  steady_refType.bind fun _ => (steady_limits 8).bind fun _ => steady_pure _

theorem steady_globalType : Steady GlobalType.scan :=
  steady_valType.bind fun _ => steady_byte.bind fun _ => (steady_guard _).bind fun _ =>
    steady_pure _

/-! ## Entries -/

/-- The byte of a kind. -/
def ExternKind.code : ExternKind → UInt8
  | .func => 0
  | .table => 1
  | .memory => 2
  | .global => 3
  | .tag => 4

/-- The bytes of the type of an import behind that of its kind. -/
def ExternType.Body : ExternType → Bytes → Prop
  | .func type, body => Numeral 32 type body
  | .table type, body => Spells TableType.scan type body
  | .memory limits, body => Spells Limits.scanMemory limits body
  | .global type, body => Spells GlobalType.scan type body
  | .tag type, body => ∃ number, body = 0 :: number ∧ Numeral 32 type number

/-- The bytes of an import: the name of its module, its own, its kind, and its type. -/
def Import.Spelled (i : Import) (bytes : Bytes) : Prop :=
  ∃ module name body, bytes = module ++ name ++ i.type.kind.code :: body ∧
    Named i.module module ∧ Named i.name name ∧ i.type.Body body

/-- The bytes of an export: its name, its kind and its number among those of the kind. -/
def Export.Spelled (e : Export) (bytes : Bytes) : Prop :=
  ∃ name index, bytes = name ++ e.kind.code :: index ∧ Named e.name name ∧ Numeral 32 e.index index

theorem reads_code (b : UInt8) : Reads (match b with
    | 0 => return .func
    | 1 => return .table
    | 2 => return .memory
    | 3 => return .global
    | 4 => return .tag
    | _ => failure : Scan ExternKind) fun kind taken => taken = [] ∧ b = kind.code := by
  split
  · exact (reads_pure _).congr fun kind _ => by cases kind <;> simp [ExternKind.code]
  · exact (reads_pure _).congr fun kind _ => by cases kind <;> simp [ExternKind.code]
  · exact (reads_pure _).congr fun kind _ => by cases kind <;> simp [ExternKind.code]
  · exact (reads_pure _).congr fun kind _ => by cases kind <;> simp [ExternKind.code]
  · exact (reads_pure _).congr fun kind _ => by cases kind <;> simp [ExternKind.code]
  · exact reads_failure.congr fun kind _ => by cases kind <;> simp_all [ExternKind.code]

theorem reads_kind : Reads ExternKind.scan fun kind taken => taken = [kind.code] := by
  refine (reads_bind reads_byte reads_code).congr fun kind taken => ?_
  constructor
  · rintro ⟨_, _, _, rfl, rfl, rfl, rfl⟩
    rfl
  · rintro rfl
    exact ⟨_, _, [], rfl, rfl, rfl, rfl⟩

theorem reads_body (kind : ExternKind) : Reads (match kind with
    | .func => return .func (← u32)
    | .table => return .table (← TableType.scan)
    | .memory => return .memory (← Limits.scanMemory)
    | .global => return .global (← GlobalType.scan)
    | .tag => do
      guard ((← byte) = 0)
      return .tag (← u32) : Scan ExternType) fun type taken =>
      type.kind = kind ∧ type.Body taken := by
  cases kind with
  | func =>
    exact (reads_map reads_u32).congr fun type _ => by
      cases type <;> simp [ExternType.kind, ExternType.Body]
  | table =>
    exact (reads_map steady_tableType).congr fun type _ => by
      cases type <;> simp [ExternType.kind, ExternType.Body]
  | memory =>
    exact (reads_map (steady_limits 16)).congr fun type _ => by
      cases type <;> simp [ExternType.kind, ExternType.Body, Limits.scanMemory]
  | global =>
    exact (reads_map steady_globalType).congr fun type _ => by
      cases type <;> simp [ExternType.kind, ExternType.Body]
  | tag =>
    refine (reads_bind reads_byte fun b => reads_guarded fun _ => reads_map reads_u32).congr
      fun type taken => ?_
    constructor
    · rintro ⟨_, _, number, rfl, rfl, rfl, n, hn, rfl⟩
      exact ⟨rfl, number, rfl, hn⟩
    · rintro ⟨hkind, hbody⟩
      cases type <;> cases hkind
      obtain ⟨number, rfl, hn⟩ := hbody
      exact ⟨0, [0], number, rfl, rfl, rfl, _, hn, rfl⟩

theorem reads_externType :
    Reads ExternType.scan fun type taken => ∃ body, taken = type.kind.code :: body ∧
      type.Body body := by
  refine (reads_bind reads_kind reads_body).congr fun type taken => ?_
  constructor
  · rintro ⟨_, _, body, rfl, rfl, rfl, hbody⟩
    exact ⟨body, rfl, hbody⟩
  · rintro ⟨body, rfl, hbody⟩
    exact ⟨_, _, body, rfl, rfl, rfl, hbody⟩

/-- **Imports.** -/
theorem reads_import : Reads Import.scan Import.Spelled := by
  refine (reads_bind reads_name fun module => reads_bind reads_name fun name =>
    reads_map reads_externType).congr fun i taken => ?_
  constructor
  · rintro ⟨module, front, _, rfl, hmodule, name, middle, _, rfl, hname, type, ⟨body, rfl, hbody⟩,
      rfl⟩
    exact ⟨front, middle, body, (List.append_assoc ..).symm, hmodule, hname, hbody⟩
  · rintro ⟨front, middle, body, rfl, hmodule, hname, hbody⟩
    exact ⟨i.module, front, _, List.append_assoc .., hmodule, i.name, middle, _, rfl, hname, i.type,
      ⟨body, rfl, hbody⟩, rfl⟩

/-- **Exports.** -/
theorem reads_export : Reads Export.scan Export.Spelled := by
  refine (reads_bind reads_name fun name => reads_bind reads_kind fun kind =>
    reads_map reads_u32).congr fun e taken => ?_
  constructor
  · rintro ⟨name, front, _, rfl, hname, kind, _, index, rfl, rfl, n, hn, rfl⟩
    exact ⟨front, index, rfl, hname, hn⟩
  · rintro ⟨front, index, rfl, hname, hindex⟩
    exact ⟨e.name, front, _, rfl, hname, e.kind, _, index, rfl, rfl, e.index, hindex, rfl⟩

end ModuleHost.Wasm
