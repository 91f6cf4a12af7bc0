import ModuleHost.Wasm.Types
import ModuleHost.Wasm.Word

/-!
# Instructions

Guest code is a tree: blocks, loops and conditionals hold the code inside them.

* `Width`, `MemArg` — the width of an access to memory; what the code fixes of it;
* `Op` — an instruction without code of its own that neither branches nor calls;
* `BlockType`, `Instr` — the type of a block; an instruction;
* `Function` — the locals and the code of a function.
-/

namespace ModuleHost.Wasm

/-- The width of an access to memory. -/
inductive Width where
  | one
  | two
  | four
  deriving DecidableEq, Repr

/-- The number of bytes of a width. -/
def Width.size : Width → Nat
  | .one => 1
  | .two => 2
  | .four => 4

/-- The power of two that a width is. -/
def Width.alignment : Width → Nat
  | .one => 0
  | .two => 1
  | .four => 2

/-- What the code fixes of an access to memory: the number of the memory, and what is added to the
address. -/
structure MemArg where
  memory : Nat
  offset : Nat
  deriving DecidableEq, Repr

/-- An instruction that neither branches nor calls. Memories are given by number. -/
inductive Op where
  | nop
  | drop
  | select
  | localGet (index : Nat)
  | localSet (index : Nat)
  | localTee (index : Nat)
  | globalGet (index : Nat)
  | globalSet (index : Nat)
  | const (value : Word)
  | load (width : Width) (signed : Bool) (arg : MemArg)
  | store (width : Width) (arg : MemArg)
  | memorySize (memory : Nat)
  | memoryGrow (memory : Nat)
  | memoryCopy (target source : Nat)
  | eqz
  | arith (op : Arith)
  deriving DecidableEq, Repr

/-- The type of a block: what it takes from the operands and what it leaves there. -/
structure BlockType where
  params : List ValType
  results : List ValType
  deriving DecidableEq, Repr

/-- An instruction. Branches name a block by how many others stand between. -/
inductive Instr where
  | op (op : Op)
  | unreachable
  | block (type : BlockType) (body : List Instr)
  | loop (type : BlockType) (body : List Instr)
  | cond (type : BlockType) (yes no : List Instr)
  | br (depth : Nat)
  | brIf (depth : Nat)
  | ret
  | call (function : Nat)
  /-- Calls the function in a slot of a table if it is of a type; the last operand is the number of
  the slot. -/
  | callIndirect (type : FuncType) (table : Nat)

/-- The code of a function. -/
structure Function where
  /-- The types of the locals beside the parameters. -/
  locals : List ValType
  body : List Instr

end ModuleHost.Wasm
