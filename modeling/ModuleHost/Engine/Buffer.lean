import ModuleHost.Engine.Basic

/-!
# Guest buffers

The host writes into buffers that the guest allocates and reads where the guest points.

* `Allocator` — the memory of an instance and its functions for buffers;
* `Allocator.ofInstance`, `Allocator.ofCaller` — those of an instance to be called, of a caller;
* `bufferIn`, `readBuffer`, `readSlot`, `writeSlot` — bytes and words where the guest points;
* `Allocator.write`, `Allocator.free` — a new buffer with bytes in it; a buffer handed back.
-/

namespace ModuleHost

open Wasm (Word Store Run Instance FuncType)

/-- The type of a function of words. -/
def wordFunction (params results : Nat) : FuncType :=
  ⟨List.replicate params .i32, List.replicate results .i32⟩

/-- The type of functions that are called with a buffer and answer with one. -/
def callableType : FuncType := wordFunction 4 1

/-- The memory of an instance and its functions for buffers, by place. -/
structure Allocator where
  memory : Nat
  allocate : Nat
  deallocate : Option Nat
  deriving DecidableEq, Repr

/-- The name under which an instance exports its memory. -/
def memoryName : String := "memory"

/-- The name under which an instance exports its allocator. -/
def allocateName : String := "allocate"

/-- The name under which an instance may export the function that takes buffers back. -/
def deallocateName : String := "deallocate"

/-- The memory that an instance exports, unless it is shared. -/
def exportedMemory? (s : Store guests) (i : Instance) : Option Nat :=
  match i.export? memoryName with
  | some (.memory place) => if s.memories[place]?.any (·.shared) then none else some place
  | _ => none

/-- The function that an instance exports under a name. -/
def exportedFunction? (i : Instance) (name : String) : Option Nat :=
  match i.export? name with
  | some (.func place) => some place
  | _ => none

/-- Whether the function at a place is of a type. -/
def hasType (s : Store guests) (place : Nat) (type : FuncType) : Bool :=
  s.functions[place]?.any (·.type = type)

namespace Allocator

/-- The function that takes buffers back, if an instance exports one of its type. -/
def deallocate? (s : Store guests) (i : Instance) : Option Nat :=
  (exportedFunction? i deallocateName).filter (hasType s · (wordFunction 2 0))

/-- The allocator of an instance that is to be called. -/
def ofInstance (s : Store guests) (i : Instance) : Except AbiFault Allocator :=
  match exportedMemory? s i with
  | none => .error .noMemory
  | some memory =>
    match (exportedFunction? i allocateName).filter (hasType s · (wordFunction 1 1)) with
    | none => .error .noAllocator
    | some allocate => .ok ⟨memory, allocate, deallocate? s i⟩

/-- The allocator of the instance that calls. -/
def ofCaller (s : Store guests) (i : Instance) : Except AbiFault Allocator :=
  match exportedMemory? s i with
  | none => .error .noMemory
  | some memory =>
    match exportedFunction? i allocateName with
    | none => .error .callerWithoutAllocate
    | some allocate =>
      if hasType s allocate (wordFunction 1 1) then .ok ⟨memory, allocate, deallocate? s i⟩
      else .error .callerAllocateType

end Allocator

/-- The value of a result; raises its fault. -/
def orRaise {α : Type} : Except AbiFault α → Guest α
  | .ok a => pure a
  | .error fault => Run.raise fault

/-- The instance that calls; one without exports if it is the host that calls. -/
def callingInstance (caller : Option Nat) : Guest Instance := do
  return (caller.bind ((← Run.store).instances[·]?)).getD {}

/-- The allocator of the instance that calls. -/
def callingAllocator (caller : Option Nat) : Guest Allocator := do
  let i ← callingInstance caller
  orRaise (Allocator.ofCaller (← Run.store) i)

/-- The memory of the instance that calls, by place. -/
def callingMemory (caller : Option Nat) : Guest Nat := do
  let i ← callingInstance caller
  orRaise (match exportedMemory? (← Run.store) i with
    | some place => .ok place
    | none => .error .noMemory)

/-! ## Access -/

/-- The memory at a place. -/
def memoryAt (s : Store guests) (place : Nat) : Wasm.Memory :=
  (s.memories[place]?).getD { pages := 0, max := none }

/-- The bytes of a buffer in a memory; an empty buffer may point anywhere. -/
def bufferIn (memory : Wasm.Memory) (pointer length : Word) : Except AbiFault Bytes :=
  if length.toInt32 < 0 then .error (.negativeLength length.toInt32)
  else if length = 0 then .ok []
  else
    match memory.read? pointer.toNat length.toNat with
    | some bytes => .ok bytes
    | none => .error (.bufferOutOfBounds pointer.toNat (pointer.toNat + length.toNat))

/-- The bytes of a buffer in the memory at a place. -/
def readBuffer (memory : Nat) (pointer length : Word) : Guest Bytes := do
  orRaise (bufferIn (memoryAt (← Run.store) memory) pointer length)

/-- The word in a slot. -/
def readSlot (memory : Nat) (pointer : Word) : Guest Word := do
  orRaise (match (memoryAt (← Run.store) memory).read? pointer.toNat 4 with
    | some bytes => .ok (Word.ofBytes bytes)
    | none => .error (.slotOutOfBounds pointer.toInt32))

/-- Writes bytes to where a pointer points; raises `fault` if they do not fit. -/
def writeAt (memory : Nat) (pointer : Word) (bytes : Bytes) (fault : AbiFault) : Guest Unit := do
  match (memoryAt (← Run.store) memory).write? pointer.toNat bytes with
  | some written => Wasm.putMemory memory written
  | none => Run.raise fault

/-- Writes a word into a slot. -/
def writeSlot (memory : Nat) (pointer value : Word) : Guest Unit :=
  writeAt memory pointer (Word.bytes value) (.slotOutOfBounds pointer.toInt32)

namespace Allocator

/-- The greatest length of a buffer. -/
def maxLength : Nat := 0x7FFFFFFF

/-- Writes bytes into a new buffer and gives its pointer. -/
def write (a : Allocator) (call : GuestCall) (bytes : Bytes) : Guest Word := do
  if maxLength < bytes.length then Run.raise .bufferTooLong
  else
    let pointer := (← call a.allocate [UInt32.ofNat bytes.length]).headD 0
    note (.allocated a.memory pointer bytes.length)
    writeAt a.memory pointer bytes (.unusableBuffer pointer.toInt32)
    return pointer

/-- Hands a buffer back. -/
def free (a : Allocator) (call : GuestCall) (pointer length : Word) : Guest Unit := do
  match a.deallocate with
  | none => return
  | some f =>
    note (.freed a.memory pointer length)
    discard (call f [pointer, length])

end Allocator

end ModuleHost
