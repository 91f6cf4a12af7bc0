import ModuleHost.Call.Parameters
import ModuleHost.Dict
import ModuleHost.Error
import ModuleHost.Log.Logger
import ModuleHost.Wasm.Exec

/-!
# Service stores

Every service has a store of its own. Its modules share the embedder's data in it.

* `HostFunction` — the functions that guests import;
* `AbiFault` — a breach of the calling convention; `AbiFault.message`;
* `Exchange` — what passes between the host and its guests while an operation runs;
* `ServiceData` — what the modules of a service share;
* `guests` — functions, data and faults as the embedding of guest code;
* `stopText` — the text that tells why guest code ended early.
-/

namespace ModuleHost

/-- A function that guests import. -/
inductive HostFunction where
  /-- Logs for the module at a position of the service. -/
  | log (position : Nat)
  /-- Hands out the parameters of the call. -/
  | callParameters
  /-- Calls a function of an earlier module. -/
  | sibling (module function : String)
  deriving DecidableEq, Repr

/-- A breach of the calling convention. -/
inductive AbiFault where
  | noMemory
  /-- An instance to be called has no allocator. -/
  | noAllocator
  /-- A caller has no function of the allocator's name. -/
  | callerWithoutAllocate
  /-- A caller has a function of that name, of another type. -/
  | callerAllocateType
  | bufferTooLong
  | unusableBuffer (pointer : Int32)
  | slotOutOfBounds (pointer : Int32)
  | negativeLength (length : Int32)
  | bufferOutOfBounds (start stop : Nat)
  | exportType
  | notInstantiated (module : String)
  /-- A sibling call failed. -/
  | sibling (cause : GuestError)
  deriving DecidableEq, Repr

/-- The text that stands for a message of the engine. -/
def engineTag : String := "<engine>"

/-- The text that stands for a trap. -/
def trapTag : String := "<trap>"

/-- The text of a fault. -/
def AbiFault.message : AbiFault → String
  | .noMemory => "module does not export `memory`"
  | .noAllocator => s!"module does not export `allocate(i32) -> i32`: {engineTag}"
  | .callerWithoutAllocate => "module does not export `allocate`"
  | .callerAllocateType => s!"`allocate` must have signature (i32) -> i32: {engineTag}"
  | .bufferTooLong => s!"buffer exceeds the guest address space: {engineTag}"
  | .unusableBuffer pointer =>
    s!"allocator returned unusable buffer at {pointer.toInt}: {engineTag}"
  | .slotOutOfBounds pointer => s!"slot at {pointer.toInt} is out of bounds: {engineTag}"
  | .negativeLength length => s!"negative buffer length {length.toInt}"
  | .bufferOutOfBounds start stop => s!"buffer {start}..{stop} is out of bounds"
  | .exportType => s!"export has an unexpected signature: {engineTag}"
  | .notInstantiated module => s!"module `{module}` is not instantiated"
  | .sibling cause => cause.message

/-- What passes between the host and the guests of a service. -/
inductive Exchange where
  /-- The module at a position asks for a record. The instance at `caller` calls, if guest code
  calls; `memory` is its memory as it stood. -/
  | log (position : Nat) (caller : Option Nat) (memory : Option Wasm.Memory)
      (level target targetLength message messageLength : Wasm.Word)
  /-- A guest was handed bytes when it asked for the parameters of the call. -/
  | parameters (handed : Bytes)
  /-- A guest calls a function of a sibling, whose instance is at `target`. -/
  | sibling (module function : String) (target : Option Nat)
  /-- An allocator gave the host a buffer in the memory at a place. -/
  | allocated (memory : Nat) (pointer : Wasm.Word) (length : Nat)
  /-- The host hands a buffer back. -/
  | freed (memory : Nat) (pointer length : Wasm.Word)

/-- What the modules of a service share. -/
structure ServiceData where
  serviceId : String
  sink : Sink
  /-- The loggers of the modules, by position. -/
  loggers : List Logger := []
  /-- The instances that sibling calls reach, by module name. -/
  directory : Dict String Nat := Dict.empty
  /-- The parameters of the call that runs; the default ones between calls. -/
  parameters : CallParameters := {}
  /-- The records that the sink took during the operation that runs. -/
  records : List LogRecord := []
  /-- What passed between host and guests during the operation that runs. -/
  exchanges : List Exchange := []

/-- The embedding of guest code. -/
abbrev guests : Wasm.Embedding := ⟨HostFunction, ServiceData, AbiFault⟩

/-- Why guest code ended early. -/
abbrev GuestStop := Wasm.Stop guests

/-- A computation on the store of a service. -/
abbrev Guest (α : Type) := Wasm.Run guests α

/-- Enters an exchange. -/
def note (x : Exchange) : Guest Unit :=
  Wasm.Run.modify fun s => { s with data := { s.data with exchanges := s.data.exchanges ++ [x] } }

/-- How functions of the store are called. -/
abbrev GuestCall := Nat → List Wasm.Word → Guest (List Wasm.Word)

/-- The text that tells why guest code ended early. An access outside of memory is told in the
engine's words. -/
def stopText : GuestStop → String
  | .trap => trapTag
  | .memoryFault => engineTag
  | .raised fault => fault.message
  | .broken => ""
  | .endless => ""

end ModuleHost
