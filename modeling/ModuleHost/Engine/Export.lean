import ModuleHost.Engine.Buffer

/-!
# Calling exports

A callable export takes the place and length of its input and two slots for the place and length
of its output, and returns a status.

* `RawOutput` — what a call gives: the status and the bytes of the output;
* `slotBehind?` — the address of the second of two slots;
* `runExport` — passes the input, runs the function, reads the output, hands the buffers back;
* `callExport` — the call of an export by name, a failure naming the export.
-/

namespace ModuleHost

open Wasm (Word Run Instance)

/-- What a call of an export gives. -/
structure RawOutput where
  status : Int32
  bytes : Bytes
  deriving DecidableEq, Repr

/-- The bytes of two empty slots. -/
def emptySlots : Bytes := List.replicate 8 0

/-- The number of bytes in a slot. -/
def slotSize : Word := 4

/-- The slot behind one; none where its address, read as a signed number, would pass the greatest
one. -/
def slotBehind? (slot : Word) : Option Word :=
  if slot.toInt32 ≤ Int32.maxValue - slotSize.toInt32 then some (slot + slotSize) else none

/-- Runs the function at a place on an input. The output is read before any buffer is handed back.
The host breaks down when there is no second slot behind the first. -/
def runExport (a : Allocator) (call : GuestCall) (function : Nat) (input : Bytes) :
    Guest RawOutput := do
  let length := UInt32.ofNat input.length
  let inputAt ← a.write call input
  let slots ← a.write call emptySlots
  let lengthSlot ← Run.orStop .broken (slotBehind? slots)
  let status := (← call function [inputAt, length, slots, lengthSlot]).headD 0
  let outputAt ← readSlot a.memory slots
  let outputLength ← readSlot a.memory lengthSlot
  let bytes ← readBuffer a.memory outputAt outputLength
  if 0 < outputLength.toInt32 then a.free call outputAt outputLength
  a.free call slots 8
  a.free call inputAt length
  return ⟨status.toInt32, bytes⟩

/-- Runs the export at a place if it is callable and its instance has an allocator. -/
def runCallable (i : Instance) (call : GuestCall) (place : Nat) (input : Bytes) :
    Guest RawOutput := do
  if hasType (← Run.store) place callableType then
    runExport (← orRaise (Allocator.ofInstance (← Run.store) i)) call place input
  else Run.raise .exportType

/-- Calls an export of an instance on an input. -/
def callExport (i : Instance) (call : GuestCall) (function : String) (input : Bytes) :
    Guest (Except GuestError RawOutput) := do
  match exportedFunction? i function with
  | none => return .error (.missingFunction function)
  | some place =>
    match ← (runCallable i call place input).attempt with
    | .ok output => return .ok output
    | .error why => return .error (.fault function (stopText why))

end ModuleHost
