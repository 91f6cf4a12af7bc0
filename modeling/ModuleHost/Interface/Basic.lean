import ModuleHost.Json.Printer
import ModuleHost.Json.Typed
import ModuleHost.Wasm.Section

/-!
# Interface metadata

A service module names its callable functions and their parameters in a custom section.

* `FunctionSignature`, `Interface` — a callable function; the functions of a module;
* `Interface.check` — function names are distinct, and the parameter names of each function;
* `Interface.parse` — the interface of a text;
* `Interface.ofModule` — the interface of a module file: that of its last metadata section.
-/

namespace ModuleHost

open Json (Reader Member)

/-- A callable function. -/
structure FunctionSignature where
  name : String
  /-- Parameter names in positional order. -/
  params : List String := []
  deriving DecidableEq, Repr

/-- The callable functions of a module. -/
structure Interface where
  functions : List FunctionSignature := []
  deriving DecidableEq, Repr

/-- Why a module has no usable metadata. -/
inductive InterfaceError where
  | notWasm
  | missing
  | malformed (cause : Json.ReadError)
  | duplicateFunction (function : String)
  | duplicateParam (function param : String)
  deriving DecidableEq, Repr

/-- The name of the custom section that holds metadata. -/
def Interface.sectionName : String := "interface-types"

/-- The text of an error, with `json` for the cause of malformed metadata. -/
def InterfaceError.messageWith (json : Json.ReadError → String) : InterfaceError → String
  | .notWasm => "module is not valid wasm: <wasm>"
  | .missing => s!"module has no `{Interface.sectionName}` custom section"
  | .malformed cause => s!"`{Interface.sectionName}` section is malformed: {json cause}"
  | .duplicateFunction function => s!"function `{function}` is declared more than once"
  | .duplicateParam function param =>
    s!"function `{function}` declares parameter `{param}` more than once"

/-- The text of an error. -/
def InterfaceError.message (e : InterfaceError) : String := e.messageWith Json.ReadError.tag

/-- The text of an error where only texts are passed on. -/
def InterfaceError.plainMessage (e : InterfaceError) : String :=
  e.messageWith Json.ReadError.plainTag

namespace Interface

/-- The object of an interface. -/
def toJson (i : Interface) : Json :=
  .fields [("functions", .array (i.functions.map fun f =>
    .fields [("name", .string f.name), ("params", .strings f.params)]))]

/-- The members of a function. -/
def functionMembers : List (Member FunctionSignature) :=
  [.ofRequired "name" Reader.text fun f s => { f with name := s },
   .ofOptional "params" (Reader.list Reader.text) fun f ps => { f with params := ps }]

/-- The members of an interface. -/
def members : List (Member Interface) :=
  [.ofOptional "functions" (Reader.list (Reader.record functionMembers { name := "" }))
     fun i fs => { i with functions := fs }]

/-! ## Distinct names -/

/-- The first name that stands among those before it. -/
def firstRepeated (seen : List String) : List String → Option String
  | [] => none
  | name :: names =>
    if seen.contains name then some name else firstRepeated (name :: seen) names

/-- Checks functions from left to right, `seen` being the names before them: the name of a
function first, then its parameters. -/
def checkFrom (seen : List String) : List FunctionSignature → Except InterfaceError Unit
  | [] => .ok ()
  | f :: fs =>
    if seen.contains f.name then .error (.duplicateFunction f.name)
    else
      match firstRepeated [] f.params with
      | some param => .error (.duplicateParam f.name param)
      | none => checkFrom (f.name :: seen) fs

/-- Checks that names are distinct. -/
def check (i : Interface) : Except InterfaceError Unit := checkFrom [] i.functions

/-! ## Reading -/

/-- The interface of a text. -/
def parse (raw : Text) : Except InterfaceError Interface :=
  match (Reader.record members {}).whole raw with
  | .error cause => .error (.malformed cause)
  | .ok i =>
    match i.check with
    | .ok () => .ok i
    | .error e => .error e

/-- The content of the last metadata section. -/
def sectionContent? (sections : List Wasm.Section) : Option Bytes :=
  ((sections.filterMap Wasm.Section.custom?).filter (·.1 = sectionName)).getLast?.map (·.2)

/-- The interface of a module file. -/
def ofModule (bytes : Bytes) : Except InterfaceError Interface :=
  match Wasm.sections? bytes with
  | none => .error .notWasm
  | some sections =>
    match sectionContent? sections with
    | none => .error .missing
    | some content => parse (Text.decode content)

/-- The function of a name. -/
def function? (i : Interface) (name : String) : Option FunctionSignature :=
  i.functions.find? (·.name = name)

end Interface

end ModuleHost
