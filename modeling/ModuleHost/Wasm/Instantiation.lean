import ModuleHost.Wasm.Exec

/-!
# Instantiation

* `Store.provides` — whether a part of a store is of the type that an import asks for;
* `Module.link?` — the parts that the imports of a module name;
* `ConstExpr.value`, `ConstExpr.target?` — the number or the function that an initial value is;
* `ElementSegment.fill`, `ElementSegment.fits` — what a segment puts into a table, if it has room;
* `Module.allocate` — a new instance, its elements in their tables, its memories not yet filled;
* `Module.instantiate` — a new instance, its data placed and its start function run.
-/

namespace ModuleHost.Wasm

variable {E : Embedding}

/-! ## Imports -/

/-- Whether bounds of `min` and `max` are within those that an import asks for. -/
def Limits.admits (wanted : Limits) (min : Nat) (max : Option Nat) : Bool :=
  wanted.min ≤ min && wanted.max.all fun most => max.any (· ≤ most)

/-- Whether a part of a store is of the type that an import of `m` asks for. -/
def Store.provides (s : Store E) (m : Module) (wanted : ExternType) (part : Extern) : Bool :=
  match wanted, part with
  | .func type, .func place =>
    match m.types[type]?, s.functions[place]? with
    | some t, some f => f.type = t
    | _, _ => false
  | .table type, .table place =>
    s.tables[place]?.any fun t =>
      t.type.element = type.element && type.limits.admits t.size t.type.limits.max
  | .memory limits, .memory place =>
    s.memories[place]?.any fun memory =>
      memory.shared = limits.shared && limits.admits memory.pages memory.max
  | .global type, .global place => s.globals[place]?.any (·.type = type)
  | _, _ => false

/-- The parts that the imports of a module name, if each is there and of its type. -/
def Module.link? (m : Module) (s : Store E) (resolve : Import → Option Extern) :
    Option (List Extern) :=
  m.imports.mapM fun i => (resolve i).filter (s.provides m i.type)

/-! ## Allocation -/

/-- The places of the functions in a list of parts. -/
def functionPlaces (parts : List Extern) : List Nat :=
  parts.filterMap fun
    | .func place => some place
    | _ => none

/-- The places of the tables in a list of parts. -/
def tablePlaces (parts : List Extern) : List Nat :=
  parts.filterMap fun
    | .table place => some place
    | _ => none

/-- The places of the memories in a list of parts. -/
def memoryPlaces (parts : List Extern) : List Nat :=
  parts.filterMap fun
    | .memory place => some place
    | _ => none

/-- The places of the globals in a list of parts. -/
def globalPlaces (parts : List Extern) : List Nat :=
  parts.filterMap fun
    | .global place => some place
    | _ => none

/-- The places of `n` parts added behind those in a list. -/
def newPlaces {α : Type} (present : List α) (n : Nat) : List Nat :=
  (List.range n).map (present.length + ·)

/-- The numbers at hand after a step of the computation of an initial value, the last first. -/
def ConstOp.run (s : Store E) (globals : List Nat) (stack : List Word) : ConstOp → List Word
  | .number _ w => w :: stack
  | .null _ | .function _ => 0 :: stack
  | .global i => ((globals[i]?.bind (s.globals[·]?)).map (·.value)).getD 0 :: stack
  | .arith _ op =>
    match stack with
    | b :: a :: rest => (op.eval? a b).getD 0 :: rest
    | _ => stack

/-- An initial value; the globals are given by place. -/
def ConstExpr.value (s : Store E) (globals : List Nat) (e : ConstExpr) : Word :=
  (e.foldl (ConstOp.run s globals) []).headD 0

/-- The function that a step of the computation of an initial value points to. -/
def ConstOp.target? (s : Store E) (home : Instance) : ConstOp → Option Nat
  | .function i => home.functions[i]?
  | .global i => (home.globals[i]?.bind (s.globals[·]?)).bind (·.target)
  | .number _ _ | .null _ | .arith _ _ => none

/-- The function that an initial value points to; a reference is computed in one step. -/
def ConstExpr.target? (s : Store E) (home : Instance) (e : ConstExpr) : Option Nat :=
  e.head?.bind (ConstOp.target? s home)

/-! ## Elements -/

namespace ElementSegment

/-- The first slot of a segment and the place of its table among those of the store. -/
def range? (s : Store E) (home : Instance) (e : ElementSegment) : Option (Nat × Nat) := do
  let (table, offset) ← e.target
  return (← home.tables[table]?, (offset.value s home.globals).toNat)

/-- The tables of a store with what a segment puts into one of them. -/
def fill (s : Store E) (home : Instance) (tables : List Table) (e : ElementSegment) : List Table :=
  match e.range? s home with
  | none => tables
  | some (place, start) =>
    tables.modify place (·.fill start (e.items.map (ConstExpr.target? s home)))

/-- Whether a segment that is put into a table lies inside. -/
def fits (s : Store E) (home : Instance) (tables : List Table) (e : ElementSegment) : Bool :=
  match e.range? s home with
  | none => true
  | some (place, start) => tables[place]?.any (·.holds start e.items.length)

end ElementSegment

namespace Module

/-- The functions that a module defines, as those of the instance at `home`. -/
def newFunctions (m : Module) (home : Nat) : List (FunctionInstance E) :=
  let types := m.functionTypes?.getD []
  (m.functions.zip m.codes).map fun (type, code) =>
    .guest (m.types.getD type ⟨[], []⟩) home code (code.kept types)

/-- The memories that a module defines. -/
def newMemories (m : Module) : List Memory :=
  m.memories.map fun l => { pages := l.min, max := l.max, shared := l.shared }

/-- The part that an export names. -/
def exported? (i : Instance) (e : Export) : Option (String × Extern) :=
  let part := match e.kind with
    | .func => i.functions[e.index]?.map Extern.func
    | .table => i.tables[e.index]?.map Extern.table
    | .memory => i.memories[e.index]?.map Extern.memory
    | .global => i.globals[e.index]?.map Extern.global
    | .tag => none
  part.map fun part => (e.name, part)

/-- The instance of a module in a store: its imports and what is added for it. -/
def newInstance (m : Module) (s : Store E) (parts : List Extern) : Instance :=
  let i : Instance :=
    { functions := functionPlaces parts ++ newPlaces s.functions m.functions.length
      tables := tablePlaces parts ++ newPlaces s.tables m.tables.length
      memories := memoryPlaces parts ++ newPlaces s.memories m.memories.length
      globals := globalPlaces parts ++ newPlaces s.globals m.globals.length }
  { i with exports := m.exports.filterMap (exported? i) }

/-- The tables with those that a module defines, its elements put into them up to the first segment
that does not fit. -/
def newTables (m : Module) (s : Store E) (home : Instance) : List Table :=
  let tables := s.tables ++ m.tables.map fun t => { type := t }
  (m.elements.takeWhile (·.fits s home tables)).foldl (ElementSegment.fill s home) tables

/-- The store with a new instance of a module, which is the last. -/
def allocate (m : Module) (parts : List Extern) (s : Store E) : Store E :=
  let home := m.newInstance s parts
  { s with
    functions := s.functions ++ m.newFunctions s.instances.length
    tables := m.newTables s home
    memories := s.memories ++ m.newMemories
    globals := s.globals ++ m.globals.map fun g =>
      ⟨g.1, g.2.value s (globalPlaces parts), g.2.target? s home⟩
    instances := s.instances ++ [home] }

/-! ## Instantiation -/

/-- Traps if an element segment does not lie inside its table. -/
def checkElements (home : Instance) (es : List ElementSegment) : Run E Unit := do
  let s ← Run.store
  if es.all (·.fits s home s.tables) then return else Run.stop .trap

/-- Places the data of a module in the memories of its instance. -/
def placeData (home : Instance) : List DataSegment → Run E Unit
  | [] => return
  | d :: ds => do
    let (place, memory) ← memoryNumber home d.memory
    let offset := d.offset.value (← Run.store) home.globals
    putMemory place (← Run.orTrap (memory.write? offset.toNat d.bytes))
    placeData home ds

/-- Instantiates a module with the parts that its imports name: its elements and its data are placed,
then its start function runs. The result is the place of the instance. -/
def instantiate (host : HostFunctions E) (regime : Regime) (m : Module) (parts : List Extern) :
    Run E Nat := do
  let place := (← Run.store).instances.length
  let home := m.newInstance (← Run.store) parts
  Run.modify (m.allocate parts)
  checkElements home m.elements
  placeData home m.data
  match m.start with
  | none => return place
  | some f =>
    discard (invoke host regime regime.stack none (← Run.orTrap home.functions[f]?) [])
    return place

end Module

end ModuleHost.Wasm
