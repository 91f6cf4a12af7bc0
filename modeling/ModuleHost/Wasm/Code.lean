import ModuleHost.Wasm.Instr

/-!
# Reading code

* `MemArg.scan` — what the code fixes of an access to memory;
* `Op.scan?` — an instruction without code of its own, by its first byte;
* `Instr.scanBody` — the instructions up to the end of a block or the start of its other branch;
* `Function.scan` — the locals and the code of a function.
-/

namespace ModuleHost.Wasm

/-- The operations on two words by their code. -/
def arithCodes : List (UInt8 × Arith) :=
  [(0x46, .eq), (0x47, .ne), (0x48, .ltS), (0x49, .ltU), (0x4A, .gtS), (0x4B, .gtU), (0x4C, .leS),
   (0x4D, .leU), (0x4E, .geS), (0x4F, .geU), (0x6A, .add), (0x6B, .sub), (0x6C, .mul),
   (0x6D, .divS), (0x6E, .divU), (0x6F, .remS), (0x70, .remU), (0x71, .and), (0x72, .or),
   (0x73, .xor), (0x74, .shl), (0x75, .shrS), (0x76, .shrU), (0x77, .rotl), (0x78, .rotr)]

/-- The flag in an alignment that announces the number of a memory. -/
def memoryFlag : Nat := 0x40

/-- Takes what the code fixes of an access of a width: its alignment, at most that of the width,
the number of a memory if the alignment announces one, and the offset. -/
def MemArg.scan (width : Width) : Scan MemArg := do
  let flags ← Scan.u32
  let memory ← if flags.testBit 6 then Scan.u32 else pure 0
  let alignment := if flags.testBit 6 then flags - memoryFlag else flags
  guard (alignment ≤ width.alignment)
  return ⟨memory, ← Scan.u32⟩

/-- Takes the rest of an instruction that neither branches nor calls, given its first byte. -/
def Op.scan? (code : UInt8) : Scan Op := do
  match arithCodes.lookup code with
  | some op => return .arith op
  | none =>
    match code with
    | 0x01 => return .nop
    | 0x1A => return .drop
    | 0x1B => return .select
    | 0x20 => return .localGet (← Scan.u32)
    | 0x21 => return .localSet (← Scan.u32)
    | 0x22 => return .localTee (← Scan.u32)
    | 0x23 => return .globalGet (← Scan.u32)
    | 0x24 => return .globalSet (← Scan.u32)
    | 0x28 => return .load .four false (← MemArg.scan .four)
    | 0x2C => return .load .one true (← MemArg.scan .one)
    | 0x2D => return .load .one false (← MemArg.scan .one)
    | 0x2E => return .load .two true (← MemArg.scan .two)
    | 0x2F => return .load .two false (← MemArg.scan .two)
    | 0x36 => return .store .four (← MemArg.scan .four)
    | 0x3A => return .store .one (← MemArg.scan .one)
    | 0x3B => return .store .two (← MemArg.scan .two)
    | 0x3F => return .memorySize (← Scan.u32)
    | 0x40 => return .memoryGrow (← Scan.u32)
    | 0x41 => return .const (UInt32.ofInt (← Scan.integer 32))
    | 0x45 => return .eqz
    | 0xFC =>
      guard ((← Scan.u32) = 10)
      return .memoryCopy (← Scan.u32) (← Scan.u32)
    | _ => failure

/-- Takes the type of a block: nothing, one result, or a type of the module by its number. A number
that would be negative stands for a result. -/
def BlockType.scan (types : List FuncType) : Scan BlockType := do
  match ← get with
  | 0x40 :: rest => set rest; return ⟨[], []⟩
  | b :: _ =>
    if 0x40 ≤ b ∧ b < 0x80 then return ⟨[], [← ValType.scan]⟩
    else
      let index ← Scan.integer 33
      guard (0 ≤ index)
      match types[index.toNat]? with
      | some t => return ⟨t.params, t.results⟩
      | none => failure
  | [] => failure

/-- What ends a run of instructions. -/
inductive Closing where
  | fin
  | otherwise
  deriving DecidableEq

/-- Takes instructions up to what ends them; `fuel` bounds their number. -/
def Instr.scanBody (types : List FuncType) : Nat → Scan (List Instr × Closing)
  | 0 => failure
  | fuel + 1 => do
    let follow (i : Instr) : Scan (List Instr × Closing) := do
      let (is, closing) ← scanBody types fuel
      return (i :: is, closing)
    let inner : Scan (List Instr) := do
      let (is, closing) ← scanBody types fuel
      guard (closing = .fin)
      return is
    match ← Scan.byte with
    | 0x0B => return ([], .fin)
    | 0x05 => return ([], .otherwise)
    | 0x00 => follow .unreachable
    | 0x02 => follow (.block (← BlockType.scan types) (← inner))
    | 0x03 => follow (.loop (← BlockType.scan types) (← inner))
    | 0x04 =>
      let type ← BlockType.scan types
      let (yes, closing) ← scanBody types fuel
      match closing with
      | .fin => follow (.cond type yes [])
      | .otherwise => follow (.cond type yes (← inner))
    | 0x0C => follow (.br (← Scan.u32))
    | 0x0D => follow (.brIf (← Scan.u32))
    | 0x0F => follow .ret
    | 0x10 => follow (.call (← Scan.u32))
    | 0x11 =>
      match types[← Scan.u32]? with
      | some type => follow (.callIndirect type (← Scan.u32))
      | none => failure
    | code => follow (.op (← Op.scan? code))

/-- The greatest number of locals of a function, its parameters among them. -/
def maxLocals : Nat := 50000

/-- Takes the locals of a function, runs of one type each. -/
def Function.scanLocals : Scan (List ValType) := do
  let runs ← Scan.vector (do return ((← Scan.u32), (← ValType.scan)))
  guard (runs.foldl (fun n run => n + run.1) 0 ≤ maxLocals)
  return runs.flatMap fun run => List.replicate run.1 run.2

/-- Takes a function, up to the end of the bytes. -/
def Function.scan (types : List FuncType) : Scan Function := do
  let locals ← scanLocals
  let (body, closing) ← Instr.scanBody types ((← get).length + 1)
  guard (closing = .fin ∧ (← get).isEmpty)
  return ⟨locals, body⟩

end ModuleHost.Wasm
