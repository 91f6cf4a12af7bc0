import ModuleHost.Wasm.StackUse
import ModuleHost.Wasm.Store

/-!
# Running guest code

* `Frame`, `Flow` — the locals and operands of running code; how an instruction leaves it;
* `Op.run` — an instruction without code of its own;
* `Instr.run`, `Instr.runAll`, `iterate` — instructions; the turns of a loop;
* `Regime`, `HostFunctions` — how guest code is run; what the embedder's functions do;
* `invoke` — a call of a function of the store.
-/

namespace ModuleHost.Wasm

variable {E : Embedding}

/-- The locals and the operands of running code, the last operand first. -/
structure Frame where
  locals : List Word
  operands : List Word

/-- How an instruction leaves running code. -/
inductive Flow where
  | next (frame : Frame)
  /-- To the end of the block that encloses as many others, or to the start of that loop. -/
  | branch (depth : Nat) (frame : Frame)
  | ret (frame : Frame)

namespace Frame

/-- A frame with one more operand. -/
def push (f : Frame) (w : Word) : Frame := { f with operands := w :: f.operands }

/-- The frame of the code in a block: it sees only what the block takes. -/
def inside (f : Frame) (params : Nat) : Frame := { f with operands := f.operands.take params }

/-- The frame after a block that leaves its last operands beside those of `outer` that it did not
take. -/
def outside (f outer : Frame) (params results : Nat) : Frame :=
  { f with operands := f.operands.take results ++ outer.operands.drop params }

end Frame

/-! ## Instructions without code of their own -/

/-- Memory number `i` of an instance, after its place. -/
def memoryNumber (home : Instance) (i : Nat) : Run E (Nat × Memory) := do
  let place ← Run.orTrap home.memories[i]?
  let memory ← Run.orTrap (← Run.store).memories[place]?
  return (place, memory)

/-- Puts a memory in its place. -/
def putMemory (place : Nat) (memory : Memory) : Run E Unit :=
  Run.modify fun s => { s with memories := s.memories.set place memory }

/-- Puts a value into a global. -/
def putGlobal (place : Nat) (global : Global) (value : Word) : Run E Unit :=
  Run.modify fun s => { s with globals := s.globals.set place { global with value := value } }

/-- The value that a full memory gives in place of its size when it is asked to grow. -/
def cannotGrow : Word := 0xFFFFFFFF

/-- Why an access outside of a memory stops: the guard notices it as a fault, code that compares
beforehand traps. -/
def MemArg.stop (arg : MemArg) (base : Word) (width : Width) : Stop E :=
  if isGuarded base.toNat arg.offset width.size then .memoryFault else .trap

/-- Runs an instruction. -/
def Op.run (home : Instance) (op : Op) (f : Frame) : Run E Frame :=
  match op, f.operands with
  | .nop, _ => return f
  | .drop, _ :: rest => return { f with operands := rest }
  | .select, c :: b :: a :: rest =>
    return { f with operands := (if c ≠ 0 then a else b) :: rest }
  | .localGet i, _ => do return f.push (← Run.orTrap f.locals[i]?)
  | .localSet i, w :: rest => return ⟨f.locals.set i w, rest⟩
  | .localTee i, w :: _ => return { f with locals := f.locals.set i w }
  | .globalGet i, _ => do
    let place ← Run.orTrap home.globals[i]?
    let global ← Run.orTrap (← Run.store).globals[place]?
    return f.push global.value
  | .globalSet i, w :: rest => do
    let place ← Run.orTrap home.globals[i]?
    let global ← Run.orTrap (← Run.store).globals[place]?
    putGlobal place global w
    return { f with operands := rest }
  | .const w, _ => return f.push w
  | .load width signed arg, base :: rest => do
    let (_, memory) ← memoryNumber home arg.memory
    let bytes ← Run.orStop (arg.stop base width)
      (memory.read? (base.toNat + arg.offset) width.size)
    let value := if signed then Word.ofSignedBytes bytes else Word.ofBytes bytes
    return { f with operands := value :: rest }
  | .store width arg, value :: base :: rest => do
    let (place, memory) ← memoryNumber home arg.memory
    let bytes := (Word.bytes value).take width.size
    putMemory place
      (← Run.orStop (arg.stop base width) (memory.write? (base.toNat + arg.offset) bytes))
    return { f with operands := rest }
  | .memorySize i, _ => do
    let (_, memory) ← memoryNumber home i
    return f.push (UInt32.ofNat memory.pages)
  | .memoryGrow i, n :: rest => do
    let (place, memory) ← memoryNumber home i
    match memory.grow? n.toNat with
    | none => return { f with operands := cannotGrow :: rest }
    | some grown =>
      putMemory place grown
      return { f with operands := UInt32.ofNat memory.pages :: rest }
  | .memoryCopy into origin, n :: source :: target :: rest => do
    let (_, memory) ← memoryNumber home origin
    let bytes ← Run.orTrap (memory.read? source.toNat n.toNat)
    let (place, memory) ← memoryNumber home into
    putMemory place (← Run.orTrap (memory.write? target.toNat bytes))
    return { f with operands := rest }
  | .eqz, w :: rest => return { f with operands := Word.ofBool (w = 0) :: rest }
  | .arith op, b :: a :: rest => do
    return { f with operands := (← Run.orTrap (op.eval? a b)) :: rest }
  | _, _ => Run.stop .trap

/-! ## Instructions -/

/-- What surrounds the running code of one function. -/
structure Activation (E : Embedding) where
  /-- The instance whose code runs. -/
  home : Instance
  /-- Calls the function at a place with arguments, the first first. -/
  call : Nat → List Word → Run E (List Word)
  /-- The greatest number of turns of a loop. -/
  turns : Nat

/-- The turns of a loop that takes `params` operands and leaves `results`; `turns` bounds their
number. -/
def iterate (body : Frame → Run E Flow) (outer : Frame) (params results : Nat) :
    Nat → Frame → Run E Flow
  | 0, _ => Run.stop .endless
  | turns + 1, f => do
    match ← body f with
    | .branch 0 f => iterate body outer params results turns (f.inside params)
    | .branch (depth + 1) f => return .branch depth f
    | .next f => return .next (f.outside outer params results)
    | .ret f => return .ret f

/-- How a block is left, given how the code in it ended. -/
def Flow.leave (outer : Frame) (params results : Nat) : Flow → Flow
  | .next f => .next (f.outside outer params results)
  | .branch 0 f => .next (f.outside outer params results)
  | .branch (depth + 1) f => .branch depth f
  | .ret f => .ret f

/-- Runs the code in a block, which sees only the operands that the block takes. -/
def runBlock (body : Frame → Run E Flow) (type : BlockType) (f : Frame) : Run E Flow := do
  let flow ← body (f.inside type.params.length)
  return flow.leave f type.params.length type.results.length

/-- Calls the function at a place with the operands it takes. -/
def callPlace (a : Activation E) (place : Nat) (f : Frame) : Run E Flow := do
  let function ← Run.orTrap (← Run.store).functions[place]?
  let n := function.type.params.length
  let results ← a.call place (f.operands.take n).reverse
  return .next { f with operands := results.reverse ++ f.operands.drop n }

/-- Calls function number `i` of an instance. -/
def callNumber (a : Activation E) (i : Nat) (f : Frame) : Run E Flow := do
  callPlace a (← Run.orTrap a.home.functions[i]?) f

/-- The place of the function in a slot of table number `i`, if it is of a type. -/
def functionInSlot (home : Instance) (type : FuncType) (i : Nat) (slot : Word) : Run E Nat := do
  let table ← Run.orTrap (← Run.store).tables[← Run.orTrap home.tables[i]?]?
  let place ← Run.orTrap (table.slot? slot.toNat)
  let function ← Run.orTrap (← Run.store).functions[place]?
  if function.type = type then return place else Run.stop .trap

mutual

/-- Runs an instruction. -/
def Instr.run (a : Activation E) : Instr → Frame → Run E Flow
  | .op o, f => do return .next (← o.run a.home f)
  | .unreachable, _ => Run.stop .trap
  | .block t body, f => runBlock (fun f => Instr.runAll a body f) t f
  | .loop t body, f =>
    iterate (fun f => Instr.runAll a body f) f t.params.length t.results.length a.turns
      (f.inside t.params.length)
  | .cond t yes no, f =>
    match f.operands with
    | [] => Run.stop .trap
    | c :: rest =>
      runBlock (fun f => if c ≠ 0 then Instr.runAll a yes f else Instr.runAll a no f) t
        { f with operands := rest }
  | .br depth, f => return .branch depth f
  | .brIf depth, f =>
    match f.operands with
    | [] => Run.stop .trap
    | c :: rest =>
      return if c ≠ 0 then .branch depth { f with operands := rest }
        else .next { f with operands := rest }
  | .ret, f => return .ret f
  | .call i, f => callNumber a i f
  | .callIndirect type i, f =>
    match f.operands with
    | [] => Run.stop .trap
    | slot :: rest => do
      callPlace a (← functionInSlot a.home type i slot) { f with operands := rest }

/-- Runs instructions in order, up to one that does not go on to the next. -/
def Instr.runAll (a : Activation E) : List Instr → Frame → Run E Flow
  | [], f => return .next f
  | i :: is, f => do
    match ← Instr.run a i f with
    | .next f => Instr.runAll a is f
    | flow => return flow

end

/-! ## Calls -/

/-- How guest code is run. -/
structure Regime where
  /-- The bytes of stack that all calls share. -/
  stack : Nat := 524288
  /-- The greatest number of turns of a loop. -/
  turns : Nat := 0x4000000000000000
  /-- Whether a stop loses its cause when it leaves guest code, a trace of calls taking its
  place. -/
  traced : Bool := false

/-- The bytes of stack that a call of one of the embedder's functions takes. -/
def crossingBytes : Nat := 2944

/-- What the embedder's functions do: given how functions of the store are called, the place of the
instance that calls, if guest code calls, and the arguments. -/
def HostFunctions (E : Embedding) : Type :=
  E.Function → (call : Nat → List Word → Run E (List Word)) → (caller : Option Nat) →
    (arguments : List Word) → Run E (List Word)

/-- The operands that the code of a function leaves as its results, the last first. -/
def Flow.results : Flow → List Word
  | .next f => f.operands
  | .branch _ f => f.operands
  | .ret f => f.operands

/-- A stop as it leaves guest code. -/
def Stop.leaving (traced : Bool) : Stop E → Stop E
  | .memoryFault => if traced then .trap else .memoryFault
  | .raised fault => if traced then .trap else .raised fault
  | why => why

/-- Runs the code of a function. -/
def Function.run (code : Function) (type : FuncType) (a : Activation E) (arguments : List Word) :
    Run E (List Word) := do
  let locals := arguments ++ List.replicate code.locals.length 0
  let flow ← Instr.runAll a code.body ⟨locals, []⟩
  return (flow.results.take type.results.length).reverse

/-- Calls the function at a place with `stack` bytes of stack left. -/
def invoke (host : HostFunctions E) (regime : Regime) (stack : Nat) (caller : Option Nat)
    (place : Nat) (arguments : List Word) : Run E (List Word) := do
  match (← Run.store).functions[place]? with
  | none => Run.stop .trap
  | some (.host _ function) =>
    if _h : stack < crossingBytes then Run.stop .trap
    else host function (invoke host regime (stack - crossingBytes) none) caller arguments
  | some (.guest type home code kept) =>
    if _h : stack < linkBytes + kept then Run.stop .trap
    else
      match (← Run.store).instances[home]? with
      | none => Run.stop .trap
      | some inst =>
        (code.run type
          ⟨inst, invoke host regime (stack - (linkBytes + kept)) (some home), regime.turns⟩
          arguments).mapStop (Stop.leaving regime.traced)
termination_by stack
decreasing_by
  · simp only [crossingBytes] at *; omega
  · simp only [linkBytes] at *; omega

end ModuleHost.Wasm
