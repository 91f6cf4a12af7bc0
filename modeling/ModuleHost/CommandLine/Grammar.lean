/-!
# Arguments of a command

A command takes flags, some of them with a value, and positional arguments in order.

* `UsageError` — why arguments are refused;
* `Flag`, `Grammar` — a flag; the flags and positional arguments of a command, each with what it
  enters into the request of type `σ`;
* `Grammar.parse` — the request that arguments make.
-/

namespace ModuleHost.CommandLine

/-- Why the arguments of a command are refused. -/
inductive UsageError where
  /-- They do not fit the command. -/
  | misused
  /-- A pair has no sign between its key and its value. -/
  | noEquals (raw : String)
  | emptyKey (raw : String)
  deriving DecidableEq, Repr

/-- The text that is shown. -/
def UsageError.message : UsageError → String
  | .misused => "<usage>"
  | .noEquals raw => s!"expected KEY=VALUE, got `{raw}`"
  | .emptyKey raw => s!"empty key in `{raw}`"

variable {σ : Type}

/-- What a flag enters into a request. -/
inductive Intake (σ : Type) where
  | switch (set : σ → σ)
  | value (enter : σ → String → Except UsageError σ)

/-- A flag. -/
structure Flag (σ : Type) where
  long : String
  short : Option Char := none
  repeatable : Bool := false
  intake : Intake σ

/-- The arguments that a command takes. -/
structure Grammar (σ : Type) where
  flags : List (Flag σ)
  /-- What each positional argument enters. -/
  positionals : List (σ → String → Except UsageError σ)

/-- How far the arguments are read. -/
structure Progress (σ : Type) where
  request : σ
  /-- The flags met. -/
  met : List String := []
  /-- The flag whose value is due. -/
  due : Option (Flag σ) := none
  /-- The fault of a value just read. -/
  fault : Option UsageError := none
  /-- The number of positional arguments met. -/
  positionals : Nat := 0
  /-- Whether all that follows is positional. -/
  escaped : Bool := false

/-- The part before the first equals sign, and the part after it if there is one. -/
def splitEquals (cs : List Char) : List Char × Option (List Char) :=
  match cs.span (· ≠ '=') with
  | (key, _ :: value) => (key, some value)
  | (key, []) => (key, none)

/-- Whether an argument is written as a flag. -/
def isFlag : List Char → Bool
  | ['-'] => false
  | '-' :: _ => true
  | _ => false

namespace Grammar

/-- The flag of an argument, with the value attached to it. -/
def flag? (g : Grammar σ) : List Char → Option (Flag σ × Option (List Char))
  | '-' :: '-' :: cs =>
    let (name, attached) := splitEquals cs
    (g.flags.find? (·.long.toList = name)).map (·, attached)
  | '-' :: c :: cs =>
    let attached := match cs with
      | [] => none
      | '=' :: value => some value
      | value => some value
    (g.flags.find? (·.short = some c)).map (·, attached)
  | _ => none

/-- Reads a flag. -/
def readFlag (p : Progress σ) (f : Flag σ) (attached : Option (List Char)) :
    Except UsageError (Progress σ) :=
  let p := { p with met := f.long :: p.met }
  match f.intake, attached with
  | .switch set, none => .ok { p with request := set p.request }
  | .switch _, some _ => .error .misused
  | .value enter, some value => do
    return { p with request := ← enter p.request (String.ofList value) }
  | .value _, none => .ok { p with due := some f }

/-- Reads the value of a flag; its fault is reported once the argument behind is known. -/
def readValue (p : Progress σ) (f : Flag σ) (argument : String) : Progress σ :=
  match f.intake with
  | .switch _ => { p with due := none }
  | .value enter =>
    match enter p.request argument with
    | .ok request => { p with due := none, request := request }
    | .error e => { p with due := none, fault := some e }

/-- Reads one argument. -/
def readOne (g : Grammar σ) (p : Progress σ) (argument : String) :
    Except UsageError (Progress σ) :=
  let cs := argument.toList
  if !p.escaped && cs = ['-', '-'] then .ok { p with escaped := true }
  else if !p.escaped && isFlag cs then
    match g.flag? cs, p.due, p.fault with
    | some (f, attached), none, none =>
      if p.met.contains f.long && !f.repeatable then .error .misused else readFlag p f attached
    | some _, none, some e => .error e
    | _, _, _ => .error .misused
  else
    match p.due, p.escaped, g.positionals[p.positionals]?, p.fault with
    | some f, false, _, _ => .ok (readValue p f argument)
    | none, _, some _, some e => .error e
    | none, _, some enter, none => do
      return { p with
        request := ← enter p.request argument
        positionals := p.positionals + 1 }
    | _, _, _, _ => .error .misused

/-- The request that arguments make, from a start without any. -/
def parse (g : Grammar σ) (start : σ) (arguments : List String) : Except UsageError σ := do
  let p ← arguments.foldlM g.readOne { request := start }
  match p.due, p.fault with
  | none, none => return p.request
  | none, some e => throw e
  | some _, _ => throw .misused

end Grammar

end ModuleHost.CommandLine
