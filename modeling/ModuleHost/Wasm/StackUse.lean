import ModuleHost.Wasm.Instr

/-!
# The stack that a call takes

A call of guest code puts on the stack its way back and the values that it needs again after the
calls in its code. Constants are made anew where they are needed, and so is what is computed from
one local alone.

* `Origin` — what an operand is computed from;
* `Needs`, `Instr.needs` — what code uses of what is there before it;
* `Instr.survey` — what code needs, with the greatest number of bytes that outlive a call in it;
* `linkBytes`, `Function.kept` — the bytes of stack that the way back takes, and the values.
-/

namespace ModuleHost.Wasm

/-! ## Operands -/

/-- What an operand is computed from. -/
inductive Origin where
  | constants
  /-- Constants and one local. -/
  | copy (index : Nat)
  | other
  deriving DecidableEq, Repr

/-- What is computed from two operands. -/
def Origin.join : Origin → Origin → Origin
  | .constants, b => b
  | a, .constants => a
  | a, b => if a = b then a else .other

/-- The number of operands that an instruction takes. -/
def Op.takes : Op → Nat
  | .nop | .localGet _ | .localTee _ | .globalGet _ | .const _ | .memorySize _ => 0
  | .drop | .localSet _ | .globalSet _ | .load _ _ _ | .memoryGrow _ | .eqz => 1
  | .store _ _ | .arith _ => 2
  | .select | .memoryCopy _ _ => 3

/-- The operands that an instruction leaves, given those it takes. -/
def Op.leaves (taken : List Origin) : Op → List Origin
  | .localGet i => [.copy i]
  | .const _ => [.constants]
  | .eqz | .arith _ | .select => [taken.foldl Origin.join .constants]
  | .globalGet _ | .load _ _ _ | .memorySize _ | .memoryGrow _ => [.other]
  | _ => []

/-- The operands after an operation that takes and leaves a number of them. -/
def replaceOperands (takes leaves : Nat) (s : List Origin) : List Origin :=
  List.replicate leaves .other ++ s.drop takes

/-- The operands after an instruction, the last first; `functions` are the types of functions. -/
def Instr.after (functions : List FuncType) (s : List Origin) : Instr → List Origin
  | .op o => o.leaves (s.take o.takes) ++ s.drop o.takes
  | .block t _ | .loop t _ => replaceOperands t.params.length t.results.length s
  | .cond t _ _ => replaceOperands (t.params.length + 1) t.results.length s
  | .brIf _ => s.drop 1
  | .call f =>
    match functions[f]? with
    | some t => replaceOperands t.params.length t.results.length s
    | none => s
  | .callIndirect t _ => replaceOperands (t.params.length + 1) t.results.length s
  | .unreachable | .br _ | .ret => s

/-! ## Needs -/

/-- What code uses of what is there before it. -/
structure Needs where
  locals : List Nat := []
  /-- Whether it uses a memory, a global, a table or a function of its instance. -/
  home : Bool := false

namespace Needs

/-- With a local. -/
def withLocal (n : Needs) (i : Nat) : Needs :=
  if n.locals.contains i then n else { n with locals := i :: n.locals }

/-- Without a local. -/
def withoutLocal (n : Needs) (i : Nat) : Needs := { n with locals := n.locals.filter (· ≠ i) }

/-- With the instance. -/
def withHome (n : Needs) : Needs := { n with home := true }

/-- What one of two pieces of code needs. -/
def union (a b : Needs) : Needs := { b.locals.foldl withLocal a with home := a.home || b.home }

end Needs

/-- What an instruction needs if the code behind it needs `behind`. -/
def Op.needs (behind : Needs) : Op → Needs
  | .localGet i => behind.withLocal i
  | .localSet i | .localTee i => behind.withoutLocal i
  | .globalGet _ | .globalSet _ | .load _ _ _ | .store _ _ | .memorySize _ | .memoryGrow _
  | .memoryCopy _ _ => behind.withHome
  | .nop | .drop | .select | .const _ | .eqz | .arith _ => behind

mutual

/-- What an instruction needs if the code behind it needs `behind` and the code that branches lead
to needs what `labels` tell, the innermost first. A loop starts with what it needs when it is not
taken up again. -/
def Instr.needs (labels : List Needs) (behind : Needs) : Instr → Needs
  | .op o => o.needs behind
  | .block _ body => Instr.needsAll (behind :: labels) behind body
  | .loop _ body => Instr.needsAll ({} :: labels) behind body
  | .cond _ yes no =>
    (Instr.needsAll (behind :: labels) behind yes).union
      (Instr.needsAll (behind :: labels) behind no)
  | .br depth => labels.getD depth {}
  | .brIf depth => behind.union (labels.getD depth {})
  | .call _ | .callIndirect _ _ => behind.withHome
  | .unreachable | .ret => {}

/-- What instructions in order need. -/
def Instr.needsAll (labels : List Needs) (behind : Needs) : List Instr → Needs
  | [] => behind
  | i :: is => Instr.needs labels (Instr.needsAll labels behind is) i

end

/-! ## Calls -/

/-- The next multiple of sixteen. -/
def alignUp (n : Nat) : Nat := (n + 15) / 16 * 16

/-- The number of values that calls leave in registers. -/
def savedRegisters : Nat := 5

/-- The number of arguments that are passed in registers. -/
def argumentRegisters : Nat := 4

/-- The number of values that are needed after a call that leaves `below` of the operands. -/
def outliving (below : List Origin) (behind : Needs) : Nat :=
  let needs := below.foldl (fun n o => match o with
    | .copy i => n.withLocal i
    | _ => n) behind
  needs.locals.length + (if needs.home then 1 else 0) + below.count .other

/-- The bytes of stack that `values` needed after a call take, and `arguments` passed to it. Both
registers that are saved and values without a register fill whole multiples of sixteen bytes. -/
def keptBytes (values arguments : Nat) : Nat :=
  alignUp (8 * min values savedRegisters) + alignUp (8 * (values - savedRegisters)) +
    alignUp (8 * (arguments - argumentRegisters))

/-- The bytes of stack that values needed after a call of a function of a type take, and its
arguments. -/
def FuncType.keptBytes (t : FuncType) (s : List Origin) (behind : Needs) : Nat :=
  Wasm.keptBytes (outliving (s.drop t.params.length) behind) t.params.length

/-- Whether the code behind an instruction is never reached from it. -/
def Instr.leavesForGood : Instr → Bool
  | .unreachable | .br _ | .ret => true
  | _ => false

mutual

/-- What an instruction needs, with the greatest number of bytes that outlive a call in it. -/
def Instr.survey (functions : List FuncType) (labels : List Needs) (s : List Origin)
    (behind : Needs) : Instr → Needs × Nat
  | .block _ body => Instr.surveyAll functions (behind :: labels) s behind body
  | .loop t body =>
    let head := Instr.needs labels behind (.loop t body)
    Instr.surveyAll functions (head :: labels) s behind body
  | .cond _ yes no =>
    let (a, m) := Instr.surveyAll functions (behind :: labels) (s.drop 1) behind yes
    let (b, n) := Instr.surveyAll functions (behind :: labels) (s.drop 1) behind no
    (a.union b, max m n)
  | .call f =>
    match functions[f]? with
    | some t => (behind.withHome, t.keptBytes s behind)
    | none => (behind.withHome, 0)
  | .callIndirect t _ => (behind.withHome, t.keptBytes (s.drop 1) behind)
  | i => (i.needs labels behind, 0)

/-- What instructions in order need, with the greatest number of bytes that outlive a call in them.
Code that is never reached does not count. -/
def Instr.surveyAll (functions : List FuncType) (labels : List Needs) (s : List Origin)
    (behind : Needs) : List Instr → Needs × Nat
  | [] => (behind, 0)
  | i :: is =>
    let (needs, m) := if i.leavesForGood then (behind, 0)
      else Instr.surveyAll functions labels (i.after functions s) behind is
    let (needs, n) := Instr.survey functions labels s needs i
    (needs, max m n)

end

/-- The bytes of stack that the way back takes. -/
def linkBytes : Nat := 16

/-- The bytes of stack that a call of a function takes beside its way back; `functions` are the
types of functions. -/
def Function.kept (functions : List FuncType) (f : Function) : Nat :=
  (Instr.surveyAll functions [] [] {} f.body).2

end ModuleHost.Wasm
