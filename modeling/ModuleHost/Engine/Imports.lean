import ModuleHost.Engine.Export

/-!
# Functions that guests import

* `logMessage` — passes a guest's message to the sink;
* `handOutParameters` — hands the parameters of the call to the guest;
* `callSibling` — forwards a call to an earlier module of the service;
* `hostFunctions` — the three by name; `HostFunction.type` — their types.
-/

namespace ModuleHost

open Wasm (Word Run FuncType HostFunctions)

/-- The type of a function that guests import. -/
def HostFunction.type : HostFunction → FuncType
  | .log _ => wordFunction 5 0
  | .callParameters => wordFunction 2 1
  | .sibling _ _ => callableType

/-- Passes a record to the sink. -/
def sendRecord (record : LogRecord) : Guest Unit := do
  if (← Run.store).data.sink.breaksOn record then Run.stop .broken
  else Run.modify fun s => { s with data := { s.data with records := s.data.records ++ [record] } }

/-- The memory of the instance that calls, as it stands. -/
def callingSnapshot (caller : Option Nat) : Guest (Option Wasm.Memory) := do
  let i ← callingInstance caller
  let s ← Run.store
  return (exportedMemory? s i).map (memoryAt s)

/-- Logs a message of a guest. What the logger does not admit is not read. -/
def logMessage (logger : Logger) (caller : Option Nat)
    (level target targetLength message messageLength : Word) : Guest Unit := do
  if logger.admits (.ofGuest level.toInt32) then
    let memory ← callingMemory caller
    let target ← readBuffer memory target targetLength
    let message ← readBuffer memory message messageLength
    match logger.recordBytes level.toInt32 target message with
    | .ok (some record) => sendRecord record
    | _ => return

/-- Writes bytes into a new buffer of the caller; its pointer and length go into two slots. -/
def answerWith (own : Allocator) (call : GuestCall) (bytes : Bytes)
    (pointerSlot lengthSlot : Word) : Guest Unit := do
  let pointer ← own.write call bytes
  writeSlot own.memory pointerSlot pointer
  writeSlot own.memory lengthSlot (UInt32.ofNat bytes.length)

/-- Hands the text of the parameters of the call to the guest. -/
def handOutParameters (call : GuestCall) (caller : Option Nat) (pointerSlot lengthSlot : Word) :
    Guest Unit := do
  let text := Text.bytes (← Run.store).data.parameters.text
  answerWith (← callingAllocator caller) call text pointerSlot lengthSlot
  note (.parameters text)

/-- Calls a function of an earlier module: the input is copied out of the caller's memory and the
output into it. -/
def callSibling (module function : String) (call : GuestCall) (caller : Option Nat)
    (input inputLength pointerSlot lengthSlot : Word) : Guest Int32 := do
  let s ← Run.store
  let place := s.data.directory.get? module
  note (.sibling module function place)
  match place.bind (s.instances[·]?) with
  | none => Run.raise (.notInstantiated module)
  | some target =>
    let own ← callingAllocator caller
    let input ← readBuffer own.memory input inputLength
    match ← callExport target call function input with
    | .error cause => Run.raise (.sibling cause)
    | .ok output =>
      answerWith own call output.bytes pointerSlot lengthSlot
      return output.status

/-- What the functions that guests import do. -/
def hostFunctions : HostFunctions guests := fun f call caller arguments =>
  match f, arguments with
  | .log position, [level, target, targetLength, message, messageLength] => do
    let logger ← Run.orTrap (← Run.store).data.loggers[position]?
    let memory ← callingSnapshot caller
    note (.log position caller memory level target targetLength message messageLength)
    logMessage logger caller level target targetLength message messageLength
    return []
  | .callParameters, [pointerSlot, lengthSlot] => do
    handOutParameters call caller pointerSlot lengthSlot
    return [0]
  | .sibling module function, [input, inputLength, pointerSlot, lengthSlot] => do
    let status ← callSibling module function call caller input inputLength pointerSlot lengthSlot
    return [status.toUInt32]
  | _, _ => Run.stop .trap

end ModuleHost
