import ModuleHost.Wasm.Memory
import ModuleHost.Wasm.Module
import ModuleHost.Wasm.Table

/-!
# Stores

A store holds everything that instances are made of. Its parts are named by their place; a place
once given stays.

* `Embedding` — what the embedder of guest code brings: its functions, its data and its errors;
* `Extern`, `Instance`, `FunctionInstance`, `Global` — the parts of a store;
* `Store` — the parts and the embedder's data;
* `Stop`, `Run` — why guest code ends early; a computation on a store that may stop.
-/

namespace ModuleHost.Wasm

/-- What the embedder of guest code brings. -/
structure Embedding where
  /-- The functions that guests can call, by name. -/
  Function : Type
  /-- What the embedder keeps in a store. -/
  Data : Type
  /-- The errors of its functions. -/
  Fault : Type

/-- A part of a store, as it is imported and exported. -/
inductive Extern where
  | func (place : Nat)
  | table (place : Nat)
  | memory (place : Nat)
  | global (place : Nat)
  deriving DecidableEq, Repr

/-- An instance of a module: the places of its parts and what it exports. -/
structure Instance where
  functions : List Nat := []
  tables : List Nat := []
  memories : List Nat := []
  globals : List Nat := []
  exports : List (String × Extern) := []
  deriving DecidableEq, Repr

/-- The export of a name. -/
def Instance.export? (i : Instance) (name : String) : Option Extern := i.exports.lookup name

/-- A function: guest code of the instance at `home`, whose calls keep `kept` bytes on the stack
beside their way back, or one of the embedder's. -/
inductive FunctionInstance (E : Embedding) where
  | guest (type : FuncType) (home : Nat) (code : Function) (kept : Nat)
  | host (type : FuncType) (function : E.Function)

/-- The type of a function. -/
def FunctionInstance.type {E : Embedding} : FunctionInstance E → FuncType
  | .guest type _ _ _ => type
  | .host type _ => type

/-- A global and its value. -/
structure Global where
  type : GlobalType
  value : Word
  /-- The function that a reference first points to; of globals that change it is not asked. -/
  target : Option Nat := none
  deriving DecidableEq, Repr

/-- A store. -/
structure Store (E : Embedding) where
  functions : List (FunctionInstance E) := []
  tables : List Table := []
  memories : List Memory := []
  globals : List Global := []
  instances : List Instance := []
  data : E.Data

/-! ## Computations -/

/-- Why guest code ends before its last instruction. -/
inductive Stop (E : Embedding) where
  | trap
  /-- An access outside of a memory that its guard noticed. -/
  | memoryFault
  /-- An error of one of the embedder's functions. -/
  | raised (fault : E.Fault)
  /-- The embedder broke down. -/
  | broken
  /-- A loop went on beyond every bound. -/
  | endless

/-- The end of a computation: a value or a stop, and the store it leaves. -/
inductive Ended (E : Embedding) (α : Type) where
  | value (a : α) (store : Store E)
  | stop (why : Stop E) (store : Store E)

/-- The store that a computation leaves. -/
def Ended.store {E : Embedding} {α : Type} : Ended E α → Store E
  | .value _ store => store
  | .stop _ store => store

/-- A computation on a store. -/
def Run (E : Embedding) (α : Type) : Type := Store E → Ended E α

namespace Run

variable {E : Embedding} {α β : Type}

/-- Gives a value. -/
@[inline] protected def pure (a : α) : Run E α := fun s => .value a s

/-- One computation and then another. -/
@[inline] protected def bind (x : Run E α) (f : α → Run E β) : Run E β := fun s =>
  match x s with
  | .value a s => f a s
  | .stop why s => .stop why s

instance : Monad (Run E) where
  pure := Run.pure
  bind := Run.bind

/-- Stops. -/
@[inline] def stop (why : Stop E) : Run E α := fun s => .stop why s

/-- The store. -/
@[inline] def store : Run E (Store E) := fun s => .value s s

/-- Changes the store. -/
@[inline] def modify (f : Store E → Store E) : Run E Unit := fun s => .value () (f s)

/-- The value of an option; stops without one. -/
@[inline] def orStop (why : Stop E) : Option α → Run E α
  | some a => Run.pure a
  | none => stop why

/-- The value of an option; traps without one. -/
@[inline] def orTrap : Option α → Run E α := orStop .trap

/-- Raises an error of the embedder. -/
@[inline] def raise (fault : E.Fault) : Run E α := stop (.raised fault)

/-- A computation whose early end is put into other words. -/
@[inline] def mapStop (f : Stop E → Stop E) (x : Run E α) : Run E α := fun s =>
  match x s with
  | .value a s => .value a s
  | .stop why s => .stop (f why) s

/-- A computation that gives its own stop as a value, unless the embedder broke down or a loop does
not end. -/
@[inline] def attempt (x : Run E α) : Run E (Except (Stop E) α) := fun s =>
  match x s with
  | .value a s => .value (.ok a) s
  | .stop .broken s => .stop .broken s
  | .stop .endless s => .stop .endless s
  | .stop why s => .value (.error why) s

end Run

end ModuleHost.Wasm
