import ModuleHost.CommandLine.Basic

/-!
# The program

Reads the files that the arguments name, carries out the request and prints what it leaves.
-/

namespace ModuleHost.CommandLine

/-- Whether an error code means a number, which may be given with a minus sign. -/
def isCode (code n : UInt32) : Bool := code = n || code = 0 - n

/-- Why a file cannot be read, given the error of the system. -/
def ReadFault.ofError (e : IO.Error) : ReadFault :=
  match e with
  | .noFileOrDirectory _ _ _ => .notFound
  | .permissionDenied _ _ _ => .denied
  | .inappropriateType _ code _ =>
    if isCode code 20 then .notDirectory
    else if isCode code 21 then .isDirectory
    else .other e.toString
  | .invalidArgument _ code _ => if isCode code 36 then .nameTooLong else .other e.toString
  | _ => .other e.toString

/-- The bytes of a file. -/
def fetch (path : String) : IO (Except ReadFault Bytes) := do
  try
    return .ok (← IO.FS.readBinFile path).toList
  catch e => return .error (.ofError e)

/-- The files that a request names. -/
def fetchAll (paths : List String) : IO Files := do
  let found ← paths.mapM fun path => do return (path, ← fetch path)
  return fun path => (found.lookup path).getD (.error .notFound)

end ModuleHost.CommandLine

open ModuleHost.CommandLine in
/-- Runs the program with its arguments. -/
def main (arguments : List String) : IO UInt32 := do
  let paths := match Request.parse arguments with
    | .ok request => request.paths
    | .error _ => []
  let exit := run (← fetchAll paths) arguments
  IO.print exit.stdout
  match exit.stderr with
  | some line => IO.eprintln line
  | none => pure ()
  return exit.code
