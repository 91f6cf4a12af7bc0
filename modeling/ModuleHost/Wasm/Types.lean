import ModuleHost.Wasm.Binary

/-!
# Types, imports and exports

* `HeapType`, `RefType`, `ValType` — what a reference points to; references; values;
* `FuncType`, `Limits`, `GlobalType`, `TableType` — functions, bounds, globals, tables;
* `ExternKind`, `ExternType` — what an import or export is; the type of an import;
* `Import`, `Export` — an entry of the import or export section, with its scanner.
-/

namespace ModuleHost.Wasm

/-- What a reference points to. -/
inductive HeapType where
  /-- A family of values, as its code; shared ones may pass between threads. -/
  | family (code : UInt8) (shared : Bool)
  /-- A type of the module, by its number. -/
  | numbered (index : Nat)
  deriving DecidableEq, Repr

/-- A type of references. -/
structure RefType where
  nullable : Bool
  target : HeapType
  deriving DecidableEq, Repr

/-- The type of references to functions that may be null. -/
def RefType.func : RefType := ⟨true, .family 0x70 false⟩

/-- The type of references to values of the embedder that may be null. -/
def RefType.external : RefType := ⟨true, .family 0x6F false⟩

/-- A type of values. -/
inductive ValType where
  /-- Numbers and vectors, as their code. -/
  | number (code : UInt8)
  | reference (type : RefType)
  deriving DecidableEq, Repr

/-- The type of 32-bit integers. -/
def ValType.i32 : ValType := .number 0x7F

/-- The type of 64-bit integers. -/
def ValType.i64 : ValType := .number 0x7E

/-- Whether values of a type are numbers or vectors. -/
def ValType.isNumber : ValType → Bool
  | .number _ => true
  | .reference _ => false

/-- The codes of number and vector types. -/
def numberCodes : List UInt8 := [0x7F, 0x7E, 0x7D, 0x7C, 0x7B]

/-- The codes of families. -/
def familyCodes : List UInt8 :=
  [0x68, 0x69, 0x6A, 0x6B, 0x6C, 0x6D, 0x6E, 0x6F, 0x70, 0x71, 0x72, 0x73, 0x74, 0x75]

/-- The type of a function. -/
structure FuncType where
  params : List ValType
  results : List ValType
  deriving DecidableEq, Repr

/-- The bounds of a memory or table. -/
structure Limits where
  min : Nat
  max : Option Nat
  /-- Whether it may pass between threads. -/
  shared : Bool
  /-- The flags of other features than a maximum and sharing. -/
  extras : Nat
  deriving DecidableEq, Repr

/-- The type of a global. -/
structure GlobalType where
  type : ValType
  mutable : Bool
  /-- Whether it may pass between threads. -/
  shared : Bool
  deriving DecidableEq, Repr

/-- A table: the type of its elements and its bounds. -/
structure TableType where
  element : RefType
  limits : Limits
  deriving DecidableEq, Repr

/-- What an import or export is. -/
inductive ExternKind where
  | func
  | table
  | memory
  | global
  | tag
  deriving DecidableEq, Repr

/-- The name of a kind. -/
def ExternKind.name : ExternKind → String
  | .func => "func"
  | .table => "table"
  | .memory => "memory"
  | .global => "global"
  | .tag => "tag"

/-- The type of an import; function types and tags are given by index. -/
inductive ExternType where
  | func (type : Nat)
  | table (type : TableType)
  | memory (limits : Limits)
  | global (type : GlobalType)
  | tag (type : Nat)
  deriving DecidableEq, Repr

/-- The kind of an import. -/
def ExternType.kind : ExternType → ExternKind
  | .func _ => .func
  | .table _ => .table
  | .memory _ => .memory
  | .global _ => .global
  | .tag _ => .tag

/-- An entry of the import section. -/
structure Import where
  module : String
  name : String
  type : ExternType
  deriving DecidableEq, Repr

/-- An entry of the export section. -/
structure Export where
  name : String
  kind : ExternKind
  index : Nat
  deriving DecidableEq, Repr

/-! ## Types of values -/

/-- The greatest number of a type that a reference can name. -/
def maxNumbered : Nat := 0xFFFFF

/-- Takes the code of a family. -/
def HeapType.scanFamily : Scan UInt8 := do
  let b ← Scan.byte
  guard (familyCodes.contains b)
  return b

/-- Takes what a reference points to: a number that is not negative names a type; otherwise the
same bytes are read as a family, with a mark before it if it is shared. -/
def HeapType.scan : Scan HeapType := do
  let start ← get
  let n ← Scan.integer 33
  if 0 ≤ n then
    guard (n ≤ maxNumbered)
    return .numbered n.toNat
  else
    set start
    match start with
    | 0x65 :: rest => set rest; return .family (← scanFamily) true
    | _ => return .family (← scanFamily) false

/-- Takes a type of references: a mark that tells whether they may be null before what they point
to. Without the mark they may. -/
def RefType.scan : Scan RefType := do
  match ← get with
  | 0x63 :: rest => set rest; return ⟨true, ← HeapType.scan⟩
  | 0x64 :: rest => set rest; return ⟨false, ← HeapType.scan⟩
  | _ => return ⟨true, ← HeapType.scan⟩

/-- The bytes before what a reference points to. -/
def referenceMarks : List UInt8 := [0x63, 0x64, 0x65]

/-- Takes a type of values, told by its first byte. -/
def ValType.scan : Scan ValType := do
  match ← get with
  | [] => failure
  | b :: rest =>
    if numberCodes.contains b then set rest; return .number b
    else
      guard (referenceMarks.contains b || familyCodes.contains b)
      return .reference (← RefType.scan)

/-! ## Types of imports -/

/-- The greatest numbers of parameters and of results of a function. -/
def maxArity : Nat := 1000

/-- Takes a counted list of types. -/
def ValType.scanList : Scan (List ValType) := do
  let n ← Scan.u32
  guard (n ≤ maxArity)
  Scan.items ValType.scan n

/-- Takes the type of a function. -/
def FuncType.scan : Scan FuncType := do
  guard ((← Scan.byte) = 0x60)
  return ⟨← ValType.scanList, ← ValType.scanList⟩

/-- Takes bounds whose flags are below `flagBound`: bit 0 announces a maximum, bit 1 sharing,
bit 2 numbers of 64 bits, bit 3 a page size. -/
def Limits.scan (flagBound : Nat) : Scan Limits := do
  let flags := (← Scan.byte).toNat
  guard (flags < flagBound)
  let bits := if flags.testBit 2 then 64 else 32
  let min ← Scan.natural bits
  let max ← if flags.testBit 0 then some <$> Scan.natural bits else pure none
  if flags.testBit 3 then discard Scan.u32
  return ⟨min, max, flags.testBit 1, flags / 4⟩

/-- Takes the type of a table. -/
def TableType.scan : Scan TableType := do
  return ⟨← RefType.scan, ← Limits.scan 8⟩

/-- Takes the bounds of a memory. -/
def Limits.scanMemory : Scan Limits := Limits.scan 16

/-- Takes the type of a global: after the type of its value, bit 0 tells whether it changes and
bit 1 whether it is shared. -/
def GlobalType.scan : Scan GlobalType := do
  let type ← ValType.scan
  let flags := (← Scan.byte).toNat
  guard (flags < 4)
  return ⟨type, flags.testBit 0, flags.testBit 1⟩

/-- Takes a kind. -/
def ExternKind.scan : Scan ExternKind := do
  match ← Scan.byte with
  | 0 => return .func
  | 1 => return .table
  | 2 => return .memory
  | 3 => return .global
  | 4 => return .tag
  | _ => failure

/-- Takes the type of an import. -/
def ExternType.scan : Scan ExternType := do
  match ← ExternKind.scan with
  | .func => return .func (← Scan.u32)
  | .table => return .table (← TableType.scan)
  | .memory => return .memory (← Limits.scanMemory)
  | .global => return .global (← GlobalType.scan)
  | .tag =>
    guard ((← Scan.byte) = 0)
    return .tag (← Scan.u32)

/-- Takes an import. -/
def Import.scan : Scan Import := do
  return ⟨← Scan.name, ← Scan.name, ← ExternType.scan⟩

/-- Takes an export. -/
def Export.scan : Scan Export := do
  return ⟨← Scan.name, ← ExternKind.scan, ← Scan.u32⟩

end ModuleHost.Wasm
