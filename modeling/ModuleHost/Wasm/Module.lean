import ModuleHost.Wasm.Code
import ModuleHost.Wasm.Section

/-!
# Modules

* `ConstOp`, `ConstExpr` — a step of the computation of an initial value; an initial value;
* `ElementSegment` — functions put into a table when a module is instantiated;
* `DataSegment` — bytes placed in a memory when a module is instantiated;
* `Module` — the contents of a module file;
* `Module.scan?` — the module of a file, its sections in order and read to their ends.
-/

namespace ModuleHost.Wasm

/-- A step of the computation of an initial value. -/
inductive ConstOp where
  /-- A number of a type. Of one that is longer than a word only the lowest word is kept. -/
  | number (type : ValType) (value : Word)
  /-- The reference of a type that points to nothing. -/
  | null (type : RefType)
  /-- The reference of a function. -/
  | function (index : Nat)
  | global (index : Nat)
  /-- An operation on two numbers of a type. -/
  | arith (type : ValType) (op : Arith)
  deriving DecidableEq, Repr

/-- An initial value, as the steps that compute it. -/
abbrev ConstExpr := List ConstOp

/-- References that are put into a table when the module is instantiated, if they are put anywhere. -/
structure ElementSegment where
  /-- The number of the table and the first slot; none for a segment that is not placed by itself. -/
  target : Option (Nat × ConstExpr)
  type : RefType
  items : List ConstExpr
  deriving DecidableEq, Repr

/-- Bytes that are placed in a memory when the module is instantiated. -/
structure DataSegment where
  /-- The number of the memory. -/
  memory : Nat
  offset : ConstExpr
  bytes : Bytes
  deriving DecidableEq, Repr

/-- The contents of a module file. Functions, memories, globals and tables are numbered with the
imported ones first. -/
structure Module where
  types : List FuncType := []
  imports : List Import := []
  /-- The numbers of the types of the functions defined here. -/
  functions : List Nat := []
  tables : List TableType := []
  memories : List Limits := []
  globals : List (GlobalType × ConstExpr) := []
  exports : List Export := []
  start : Option Nat := none
  elements : List ElementSegment := []
  codes : List Function := []
  data : List DataSegment := []

namespace Module

/-! ## Numbered parts, the imported ones first -/

/-- The types of all functions; none if a type is missing. -/
def functionTypes? (m : Module) : Option (List FuncType) := do
  let imported ← (m.imports.filterMap fun i => match i.type with
    | .func t => some t
    | _ => none).mapM (m.types[·]?)
  let defined ← m.functions.mapM (m.types[·]?)
  return imported ++ defined

/-- The number of functions. -/
def functionCount (m : Module) : Nat :=
  (m.imports.filter (·.type.kind = .func)).length + m.functions.length

/-- The types of the imported globals. -/
def importedGlobals (m : Module) : List GlobalType :=
  m.imports.filterMap fun i => match i.type with
    | .global t => some t
    | _ => none

/-- The types of all globals. -/
def globalTypes (m : Module) : List GlobalType := m.importedGlobals ++ m.globals.map (·.1)

/-- The bounds of all memories. -/
def memoryTypes (m : Module) : List Limits :=
  (m.imports.filterMap fun i => match i.type with
    | .memory l => some l
    | _ => none) ++ m.memories

/-- The types of all tables. -/
def tableTypes (m : Module) : List TableType :=
  (m.imports.filterMap fun i => match i.type with
    | .table t => some t
    | _ => none) ++ m.tables

end Module

/-! ## Scanners -/

/-- The operations of initial values by their code, with the type of their numbers. -/
def constArithCodes : List (UInt8 × ValType × Arith) :=
  [(0x6A, .i32, .add), (0x6B, .i32, .sub), (0x6C, .i32, .mul),
   (0x7C, .i64, .add), (0x7D, .i64, .sub), (0x7E, .i64, .mul)]

/-- Takes the rest of a step, given its first byte. -/
def ConstOp.scan? (code : UInt8) : Scan ConstOp := do
  match constArithCodes.lookup code with
  | some (type, op) => return .arith type op
  | none =>
    match code with
    | 0x23 => return .global (← Scan.u32)
    | 0x41 => return .number .i32 (UInt32.ofInt (← Scan.integer 32))
    | 0x42 => return .number .i64 (UInt32.ofInt (← Scan.integer 64))
    | 0x43 => return .number (.number 0x7D) (Word.ofBytes (← Scan.take 4))
    | 0x44 => return .number (.number 0x7C) (Word.ofBytes ((← Scan.take 8).take 4))
    | 0xD0 => return .null ⟨true, ← HeapType.scan⟩
    | 0xD2 => return .function (← Scan.u32)
    | _ => failure

/-- The byte that ends an initial value. -/
def constEnd : UInt8 := 0x0B

/-- Takes steps up to the end; `fuel` bounds their number. -/
def ConstExpr.scanFrom : Nat → Scan ConstExpr
  | 0 => failure
  | fuel + 1 => do
    let b ← Scan.byte
    if b = constEnd then return []
    else
      let op ← ConstOp.scan? b
      return op :: (← scanFrom fuel)

/-- Takes an initial value. -/
def ConstExpr.scan : Scan ConstExpr := do
  scanFrom ((← get).length + 1)

/-- Takes an element segment. Of its flags, bit 0 tells that it is not placed by itself, bit 1 that the
table is given, or that the segment only declares functions, and bit 2 that its items are initial
values and not numbers of functions. The type of the items stands before them if bit 0 or 1 does. -/
def ElementSegment.scan : Scan ElementSegment := do
  let flags ← Scan.u32
  guard (flags < 8)
  let target ← if flags.testBit 0 then pure none else
    let table ← if flags.testBit 1 then Scan.u32 else pure 0
    pure (some (table, ← ConstExpr.scan))
  if flags.testBit 2 then
    let type ← if flags = 4 then pure .func else RefType.scan
    return ⟨target, type, ← Scan.vector ConstExpr.scan⟩
  else
    if flags ≠ 0 then guard ((← ExternKind.scan) = .func)
    return ⟨target, .func, ← Scan.vector (do return [.function (← Scan.u32)])⟩

/-- Takes counted bytes. -/
def Scan.blob : Scan Bytes := do
  take (← u32)

/-- Takes a data segment; none for one that is not placed by itself. -/
def DataSegment.scan : Scan (Option DataSegment) := do
  match ← Scan.u32 with
  | 0 => return some ⟨0, ← ConstExpr.scan, ← Scan.blob⟩
  | 1 => discard Scan.blob; return none
  | 2 => return some ⟨← Scan.u32, ← ConstExpr.scan, ← Scan.blob⟩
  | _ => failure

namespace Module

/-- The ids of sections in the order in which they stand. -/
def sectionOrder : List UInt8 := [1, 2, 3, 4, 5, 13, 6, 7, 8, 9, 12, 10, 11]

/-- The sections that are not custom. -/
def solidSections (sections : List Section) : List Section := sections.filter (·.id ≠ 0)

/-- Whether sections stand in order, each at most once. -/
def inOrder (sections : List Section) : Bool :=
  ((solidSections sections).map (·.id)).isSublist sectionOrder

variable {α : Type}

/-- What a scanner takes from the section of an id; `absent` without the section. -/
def scanSection (sections : List Section) (id : UInt8) (scan : Scan α) (absent : α) : Option α :=
  match sections.find? (·.id = id) with
  | none => some absent
  | some s => Scan.all? scan s.payload

/-- The bodies of the functions defined here. -/
def scanCodes (types : List FuncType) (sections : List Section) : Option (List Function) := do
  (← scanSection sections 10 Section.bodies []).mapM fun body =>
    Scan.all? (Function.scan types) body

/-- The module of a list of sections. -/
def ofSections? (sections : List Section) : Option Module := do
  guard (inOrder sections)
  guard (sections.all fun s => s.id ≠ 13)
  let types ← scanSection sections 1 (Scan.vector FuncType.scan) []
  let codes ← scanCodes types sections
  let functions ← scanSection sections 3 (Scan.vector Scan.u32) []
  let data ← scanSection sections 11 (Scan.vector DataSegment.scan) []
  let dataCount ← scanSection sections 12 (some <$> Scan.u32) none
  guard (codes.length = functions.length)
  guard (dataCount.all (· = data.length))
  return {
    types := types
    imports := ← scanSection sections 2 (Scan.vector Import.scan) []
    functions := functions
    tables := ← scanSection sections 4 (Scan.vector TableType.scan) []
    memories := ← scanSection sections 5 (Scan.vector Limits.scanMemory) []
    globals := ← scanSection sections 6
      (Scan.vector (do return (← GlobalType.scan, ← ConstExpr.scan))) []
    exports := ← scanSection sections 7 (Scan.vector Export.scan) []
    start := ← scanSection sections 8 (some <$> Scan.u32) none
    elements := ← scanSection sections 9 (Scan.vector ElementSegment.scan) []
    codes := codes
    data := data.filterMap id }

/-- The version of the files that hold modules. -/
def version : Nat := 1

/-- The module of a file. -/
def scan? (bytes : Bytes) : Option Module :=
  match file? bytes with
  | some ((v, .module), sections) => if v = version then ofSections? sections else none
  | _ => none

end Module

end ModuleHost.Wasm
