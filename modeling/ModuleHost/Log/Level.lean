import ModuleHost.Text.Blank

/-!
# Log levels

* `LogLevel` — the five levels, ordered by severity; `guest`, `ofGuest` — the integers guests use;
* `Threshold` — a bound on severity: nothing passes `off`, a level passes itself and less severe
  bounds;
* `Threshold.parse?`, `LogLevel.ofWord?` — the bound and the level that a word names;
* `LogLevel.parse` — the level that a text names;
* `LogMask` — a set of levels as bits.
-/

namespace ModuleHost

/-- The severity of a log record, least severe first. -/
inductive LogLevel where
  | trace
  | debug
  | info
  | warn
  | error
  deriving DecidableEq, Repr

namespace LogLevel

/-- The levels, least severe first. -/
def all : List LogLevel := [.trace, .debug, .info, .warn, .error]

/-- The place of a level in the order. -/
def severity : LogLevel → Nat
  | .trace => 0
  | .debug => 1
  | .info => 2
  | .warn => 3
  | .error => 4

instance : LE LogLevel := ⟨fun a b => a.severity ≤ b.severity⟩
instance : LT LogLevel := ⟨fun a b => a.severity < b.severity⟩
instance (a b : LogLevel) : Decidable (a ≤ b) := Nat.decLe _ _
instance (a b : LogLevel) : Decidable (a < b) := Nat.decLt _ _

/-- The name of a level. -/
def name : LogLevel → String
  | .trace => "trace"
  | .debug => "debug"
  | .info => "info"
  | .warn => "warn"
  | .error => "error"

/-- The name in capitals, as host-side records show it. -/
def caption : LogLevel → String
  | .trace => "TRACE"
  | .debug => "DEBUG"
  | .info => "INFO"
  | .warn => "WARN"
  | .error => "ERROR"

/-- The level of a caption. -/
def ofCaption? (caption : String) : Option LogLevel := all.find? (·.caption = caption)

/-- The integer by which guests name a level. -/
def guest : LogLevel → Nat
  | .error => 1
  | .warn => 2
  | .info => 3
  | .debug => 4
  | .trace => 5

/-- The level that a guest's integer names; integers without a level of their own mean trace. -/
def ofGuest (n : Int32) : LogLevel :=
  if n = 1 then .error
  else if n = 2 then .warn
  else if n = 3 then .info
  else if n = 4 then .debug
  else .trace

/-- The bit of a level in a mask. -/
def bit (l : LogLevel) : Int64 := 1 <<< Int64.ofNat (l.guest - 1)

end LogLevel

/-! ## Bounds -/

/-- A bound on severity. -/
inductive Threshold where
  | off
  | atLeast (l : LogLevel)
  deriving DecidableEq, Repr

namespace Threshold

/-- Whether a level passes the bound. -/
def admits : Threshold → LogLevel → Bool
  | .off, _ => false
  | .atLeast bound, l => bound ≤ l

/-- The name of a bound. -/
def name : Threshold → String
  | .off => "off"
  | .atLeast l => l.name

/-- The bounds, in the order of the numbers that name them. -/
def all : List Threshold :=
  [.off, .atLeast .error, .atLeast .warn, .atLeast .info, .atLeast .debug, .atLeast .trace]

/-- The number that the digits spell, an optional plus sign before them. -/
def number? (cs : List Char) : Option Nat :=
  let ds := match cs with
    | '+' :: ds => ds
    | ds => ds
  if !ds.isEmpty && ds.all Char.isDigit then
    some (ds.foldl (fun n c => 10 * n + (c.toNat - '0'.toNat)) 0)
  else none

/-- The bound that a word names: a number up to five, or a name in any letter case. -/
def parse? (word : List Char) : Option Threshold :=
  match number? word with
  | some n => all[n]?
  | none => all.find? fun t => t.name.toList = word.map Char.toLower

end Threshold

/-! ## Texts of levels -/

/-- The text that stands for a fault in a level word. -/
def levelTag : String := "<level>"

namespace LogLevel

/-- The level that a word names: a guest's number, or a name in any letter case. -/
def ofWord? (word : List Char) : Option LogLevel :=
  ((Threshold.number? word).bind fun n => all.find? (·.guest = n)).or
    (all.find? fun l => l.name.toList = word.map Char.toLower)

/-- The level that a text names, blanks around it aside. -/
def parse (s : String) : Except String LogLevel :=
  match ofWord? (Text.trim s.toList) with
  | some l => .ok l
  | none => .error s!"invalid log level `{s}`: {levelTag}"

end LogLevel

/-! ## Sets of levels -/

/-- A set of levels, a bit for each. -/
structure LogMask where
  bits : Int64
  deriving DecidableEq, Repr

namespace LogMask

/-- Every level. -/
def all : LogMask := ⟨31⟩

/-- Whether a level is in the set. -/
def allows (m : LogMask) (l : LogLevel) : Bool := m.bits &&& l.bit ≠ 0

end LogMask

end ModuleHost
