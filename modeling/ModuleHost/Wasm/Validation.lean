import ModuleHost.Wasm.Memory
import ModuleHost.Wasm.Module

/-!
# Valid modules

A valid module refers only to what it has, stays within the limits of numbers and types, and its
code finds on the operands what it takes.

* `ValType.isSupported` — whether values of a type can be there at all;
* `Operands` — the types of the operands at a point of the code; none is known after a jump;
* `Instr.check?` — the operands after an instruction, if it may stand there;
* `Module.isValid`, `Module.decode?` — whether a module is valid; the valid module of a file.
-/

namespace ModuleHost.Wasm

/-! ## Types -/

/-- Whether references of a type can be there: those that may be null, to functions or to values of
the embedder. -/
def RefType.isSupported (t : RefType) : Bool := t = .func || t = .external

/-- Whether values of a type can be there. -/
def ValType.isSupported : ValType → Bool
  | .number _ => true
  | .reference t => t.isSupported

/-- Whether a function of a type can be there. -/
def FuncType.isSupported (t : FuncType) : Bool :=
  t.params.all ValType.isSupported && t.results.all ValType.isSupported

/-- Whether a block of a type can be there. -/
def BlockType.isSupported (t : BlockType) : Bool :=
  t.params.all ValType.isSupported && t.results.all ValType.isSupported

/-- Whether a global of a type can be there. -/
def GlobalType.isSupported (t : GlobalType) : Bool := t.type.isSupported && !t.shared

/-- Whether bounds are in order, without other features than a maximum and sharing. -/
def Limits.inOrder (l : Limits) : Bool := l.extras = 0 && l.max.all (l.min ≤ ·)

/-- Whether a memory can have these bounds; a shared one has a maximum. -/
def Limits.fitMemory (l : Limits) : Bool :=
  l.inOrder && l.min ≤ maxPages && l.max.all (· ≤ maxPages) && (!l.shared || l.max.isSome)

/-- The greatest number of elements that a table can begin with, and an element segment have. -/
def maxElements : Nat := 10000000

/-- Whether a table of a type can be there. -/
def TableType.isSupported (t : TableType) : Bool :=
  t.element.isSupported && t.limits.inOrder && !t.limits.shared && t.limits.min ≤ maxElements

/-! ## Operands -/

/-- The types of operands, the last first. A type may be unknown in code that is never reached;
there more operands may be taken than are listed. -/
structure Operands where
  types : List (Option ValType)
  unreached : Bool := false

namespace Operands

/-- The operands of known types, the last at the end. -/
def ofTypes (types : List ValType) : Operands := ⟨(types.map some).reverse, false⟩

/-- The operands of code that is never reached. -/
def bottomless : Operands := ⟨[], true⟩

/-- One more operand. -/
def push (s : Operands) (t : ValType) : Operands := { s with types := some t :: s.types }

/-- More operands, the last at the end. -/
def pushAll (s : Operands) (ts : List ValType) : Operands := ts.foldl push s

/-- Takes an operand of any type. -/
def popAny? (s : Operands) : Option (Option ValType × Operands) :=
  match s.types with
  | t :: ts => some (t, { s with types := ts })
  | [] => if s.unreached then some (none, s) else none

/-- Takes an operand of a type. -/
def pop? (s : Operands) (t : ValType) : Option Operands := do
  let (u, s) ← s.popAny?
  if u.all (· = t) then some s else none

/-- Takes operands, the last at the end of the list. -/
def popAll? (s : Operands) (ts : List ValType) : Option Operands := ts.reverse.foldlM pop? s

/-- Whether the operands are those that a block leaves. -/
def areExactly (s : Operands) (ts : List ValType) : Bool :=
  match s.popAll? ts with
  | some rest => rest.types.isEmpty
  | none => false

end Operands

/-- What code can refer to. -/
structure Scope where
  functions : List FuncType
  tables : List TableType
  globals : List GlobalType
  /-- The number of memories. -/
  memories : Nat
  locals : List ValType
  /-- The results of the function. -/
  results : List ValType

/-- An operation that takes and leaves operands of given types. -/
def Operands.transform? (s : Operands) (takes leaves : List ValType) : Option Operands :=
  (s.popAll? takes).map (·.pushAll leaves)

/-- The operands after an instruction without code of its own. -/
def Op.check? (scope : Scope) (op : Op) (s : Operands) : Option Operands :=
  let w := ValType.i32
  let onMemory (memory : Nat) (takes leaves : List ValType) : Option Operands :=
    if memory < scope.memories then s.transform? takes leaves else none
  match op with
  | .nop => some s
  | .drop => s.popAny?.map (·.2)
  | .select => do
    let s ← s.pop? w
    let (t, s) ← s.popAny?
    let (u, s) ← s.popAny?
    guard (t.all fun t => u.all (· = t) && t.isNumber)
    some { s with types := t.or u :: s.types }
  | .localGet i => do s.transform? [] [← scope.locals[i]?]
  | .localSet i => do s.transform? [← scope.locals[i]?] []
  | .localTee i => do s.transform? [← scope.locals[i]?] [← scope.locals[i]?]
  | .globalGet i => do s.transform? [] [(← scope.globals[i]?).type]
  | .globalSet i => do
    let g ← scope.globals[i]?
    guard g.mutable
    s.transform? [g.type] []
  | .const _ => s.transform? [] [w]
  | .load _ _ arg => onMemory arg.memory [w] [w]
  | .store _ arg => onMemory arg.memory [w, w] []
  | .memorySize memory => onMemory memory [] [w]
  | .memoryGrow memory => onMemory memory [w] [w]
  | .memoryCopy target source =>
    if source < scope.memories then onMemory target [w, w, w] [] else none
  | .eqz => s.transform? [w] [w]
  | .arith _ => s.transform? [w, w] [w]

mutual

/-- The operands after an instruction; `labels` are the types that branches carry, innermost
first. -/
def Instr.check? (scope : Scope) (labels : List (List ValType)) :
    Instr → Operands → Option Operands
  | .op o, s => o.check? scope s
  | .unreachable, _ => some .bottomless
  | .block t body, s => do
    guard t.isSupported
    let rest ← s.popAll? t.params
    let after ← Instr.checkAll? scope (t.results :: labels) body (.ofTypes t.params)
    if after.areExactly t.results then some (rest.pushAll t.results) else none
  | .loop t body, s => do
    guard t.isSupported
    let rest ← s.popAll? t.params
    let after ← Instr.checkAll? scope (t.params :: labels) body (.ofTypes t.params)
    if after.areExactly t.results then some (rest.pushAll t.results) else none
  | .cond t yes no, s => do
    guard t.isSupported
    let rest ← (← s.pop? .i32).popAll? t.params
    let afterYes ← Instr.checkAll? scope (t.results :: labels) yes (.ofTypes t.params)
    let afterNo ← Instr.checkAll? scope (t.results :: labels) no (.ofTypes t.params)
    if afterYes.areExactly t.results && afterNo.areExactly t.results then
      some (rest.pushAll t.results)
    else none
  | .br depth, s => do
    discard (s.popAll? (← labels[depth]?))
    some .bottomless
  | .brIf depth, s => do
    let types ← labels[depth]?
    (← s.pop? .i32).transform? types types
  | .ret, s => do
    discard (s.popAll? scope.results)
    some .bottomless
  | .call f, s => do
    let t ← scope.functions[f]?
    s.transform? t.params t.results
  | .callIndirect t table, s => do
    guard ((← scope.tables[table]?).element = .func)
    (← s.pop? .i32).transform? t.params t.results

/-- The operands after instructions in order. -/
def Instr.checkAll? (scope : Scope) (labels : List (List ValType)) :
    List Instr → Operands → Option Operands
  | [], s => some s
  | i :: is, s => do Instr.checkAll? scope labels is (← Instr.check? scope labels i s)

end

namespace Module

/-- The types of the numbers at hand after a step of the computation of an initial value. It may
read imported globals that do not change. -/
def checkConst? (m : Module) (stack : List ValType) : ConstOp → Option (List ValType)
  | .number type _ => some (type :: stack)
  | .null type => if type.isSupported then some (.reference type :: stack) else none
  | .function i => if i < m.functionCount then some (.reference .func :: stack) else none
  | .global i => do
    let g ← m.importedGlobals[i]?
    if g.mutable then none else some (g.type :: stack)
  | .arith type _ =>
    match stack with
    | b :: a :: rest => if a = type && b = type then some (type :: rest) else none
    | _ => none

/-- Whether an initial value is one value of a type. -/
def constHasType (m : Module) (e : ConstExpr) (type : ValType) : Bool :=
  e.foldlM m.checkConst? [] = some [type]

/-- Whether an import can be there. -/
def importIsValid (i : Import) : Bool :=
  match i.type with
  | .func _ => true
  | .table t => t.isSupported
  | .memory l => l.fitMemory
  | .global t => t.isSupported
  | .tag _ => false

/-- Whether an export names something of its kind. -/
def exportIsValid (m : Module) (functions : List FuncType) (e : Export) : Bool :=
  match e.kind with
  | .func => e.index < functions.length
  | .table => e.index < m.tableTypes.length
  | .memory => e.index < m.memoryTypes.length
  | .global => e.index < m.globalTypes.length
  | .tag => false

/-- Whether an element segment has items of its type for a table of that type. -/
def elementIsValid (m : Module) (e : ElementSegment) : Bool :=
  e.type.isSupported && e.items.length ≤ maxElements &&
  e.items.all (m.constHasType · (.reference e.type)) &&
  e.target.all fun (table, offset) =>
    m.tableTypes[table]?.any (·.element = e.type) && m.constHasType offset .i32

/-- Whether the code of a function fits its type. -/
def functionIsValid (m : Module) (functions : List FuncType) (t : FuncType) (f : Function) :
    Bool :=
  let scope : Scope :=
    { functions := functions
      tables := m.tableTypes
      globals := m.globalTypes
      memories := m.memoryTypes.length
      locals := t.params ++ f.locals
      results := t.results }
  t.params.length + f.locals.length ≤ maxLocals && f.locals.all ValType.isSupported &&
    match Instr.checkAll? scope [t.results] f.body (.ofTypes []) with
    | some after => after.areExactly t.results
    | none => false

/-- The greatest number of tables, and of memories. -/
def maxTables : Nat := 100

/-- The greatest numbers of element segments and of data segments. -/
def maxSegments : Nat := 100000

/-- The greatest number of entries of any other kind. -/
def maxEntries : Nat := 1000000

/-- Whether a module has no more of each kind than it may have. -/
def isWithinLimits (m : Module) (functions : List FuncType) : Bool :=
  m.tableTypes.length ≤ maxTables && m.memoryTypes.length ≤ maxTables &&
  m.elements.length ≤ maxSegments && m.data.length ≤ maxSegments && m.types.length ≤ maxEntries &&
  m.imports.length ≤ maxEntries && functions.length ≤ maxEntries &&
  m.globalTypes.length ≤ maxEntries && m.exports.length ≤ maxEntries

/-- Whether a module is valid, given the types of its functions. -/
def isValidWith (m : Module) (functions : List FuncType) : Bool :=
  m.isWithinLimits functions &&
  m.types.all FuncType.isSupported &&
  m.imports.all importIsValid &&
  m.tables.all TableType.isSupported &&
  m.memories.all Limits.fitMemory &&
  m.globals.all (fun g => g.1.isSupported && m.constHasType g.2 g.1.type) &&
  decide (m.exports.map (·.name)).Nodup &&
  m.exports.all (m.exportIsValid functions) &&
  m.start.all (fun f => functions[f]? = some ⟨[], []⟩) &&
  m.elements.all m.elementIsValid &&
  m.data.all (fun d => d.memory < m.memoryTypes.length && m.constHasType d.offset .i32) &&
  ((functions.drop (functions.length - m.functions.length)).zip m.codes).all
    fun (t, f) => m.functionIsValid functions t f

/-- Whether a module is valid. -/
def isValid (m : Module) : Bool :=
  match m.functionTypes? with
  | some functions => m.isValidWith functions
  | none => false

/-- The valid module of a file. -/
def decode? (bytes : Bytes) : Option Module := (scan? bytes).filter isValid

end Module

end ModuleHost.Wasm
