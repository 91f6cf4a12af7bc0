import ModuleHost.Dict
import ModuleHost.Log.Level

/-!
# Log filters

A filter is given as directives between commas: a level for every module, `name` or `name=` for
everything from one module, `name=level` for a level of one module.

* `LogFilter` — the bound of each module named and the bound of the others;
* `Directive`, `Directive.parse` — one directive, or the reason it is passed over;
* `LogFilter.parse` — the filter of a text, with a warning for each directive passed over;
* `LogFilter.bound?`, `LogFilter.admits` — the bound of a module; whether it may emit a level.
-/

namespace ModuleHost

/-- The environment variable that holds a module's filter. -/
def logVariable : String := "WASM_LOG"

/-- Why a directive is passed over. -/
inductive DirectiveFault where
  | manyEquals
  | badLevel
  | noModule
  | secondDefault
  deriving DecidableEq, Repr

/-- The text of the warning. -/
def DirectiveFault.message : DirectiveFault → String
  | .manyEquals => s!"invalid {logVariable} directive, ignoring it"
  | .badLevel => s!"invalid {logVariable} level, ignoring it"
  | .noModule => s!"{logVariable} directive without a module name, ignoring it"
  | .secondDefault => s!"{logVariable} default level set twice, ignoring it"

/-- A warning about a directive that is passed over. -/
structure FilterWarning where
  fault : DirectiveFault
  directive : String
  deriving DecidableEq, Repr

/-- One directive: a bound for every module, or for one. -/
inductive Directive where
  | everyModule (bound : Threshold)
  | oneModule (name : String) (bound : Threshold)
  deriving DecidableEq, Repr

/-- The bound that lets everything pass. -/
def everything : Threshold := .atLeast .trace

/-- The directive for the module `name`, which must not be empty. -/
def Directive.named (name : List Char) (bound : Threshold) : Except DirectiveFault Directive :=
  if name.isEmpty then .error .noModule else .ok (.oneModule (String.ofList name) bound)

/-- The directive of a piece that is not blank. -/
def Directive.parse (piece : List Char) : Except DirectiveFault Directive :=
  match (Text.splitAt '=' piece).map Text.trim with
  | [head] =>
    match Threshold.parse? head with
    | some bound => .ok (.everyModule bound)
    | none => named head everything
  | [head, level] =>
    if level.isEmpty then named head everything
    else
      match Threshold.parse? level with
      | some bound => named head bound
      | none => .error .badLevel
  | _ => .error .manyEquals

/-- The bounds of the modules. -/
structure LogFilter where
  /-- The bound of modules without one of their own. -/
  others : Option Threshold
  /-- The bounds of the modules named. -/
  modules : Dict String Threshold
  deriving DecidableEq

namespace LogFilter

/-- The filter without directives. -/
def empty : LogFilter := ⟨none, Dict.empty⟩

/-- The filter with one more directive. The last bound of a module stays, and the first bound of
the others. -/
def apply (f : LogFilter) : Directive → Except DirectiveFault LogFilter
  | .oneModule name bound => .ok { f with modules := f.modules.insert name bound }
  | .everyModule bound =>
    if f.others.isNone then .ok { f with others := some bound } else .error .secondDefault

/-- The pieces of a text that hold directives. -/
def pieces (s : String) : List (List Char) :=
  ((Text.splitAt ',' s.toList).map Text.trim).filter (!·.isEmpty)

/-- The filter after one more piece, with the warning if it is passed over. -/
def addPiece (st : LogFilter × List FilterWarning) (piece : List Char) :
    LogFilter × List FilterWarning :=
  match Directive.parse piece >>= st.1.apply with
  | .ok f => (f, st.2)
  | .error fault => (st.1, st.2 ++ [⟨fault, String.ofList piece⟩])

/-- The filter of a text, with the warnings in order. -/
def parseWarned (s : String) : LogFilter × List FilterWarning :=
  (pieces s).foldl addPiece (empty, [])

/-- The filter of a text. -/
def parse (s : String) : LogFilter := (parseWarned s).1

/-- The bound of a module: its own, else that of the others. -/
def bound? (f : LogFilter) (module : String) : Option Threshold :=
  (f.modules.get? module).or f.others

/-- Whether a module may emit a level; a module without a bound emits nothing. -/
def admits (f : LogFilter) (module : String) (l : LogLevel) : Bool :=
  match f.bound? module with
  | some bound => bound.admits l
  | none => false

end LogFilter

end ModuleHost
