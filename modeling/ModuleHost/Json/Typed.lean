import ModuleHost.Json.Reader

/-!
# Reading typed values

Values of a known type are read straight from the text, so the first fault in the text decides,
whether it is one of form or of type.

* `Reader.skip` — passes over a value of any type, checking its form only;
* `Reader.wrongType` — refuses a value that is not of the type asked for;
* `Reader.text`, `truth`, `int64`, `natural`, `nullable`, `list`, `dict` — typed values;
* `Member`, `Reader.record` — a record given as an object or as the array of its members.
-/

namespace ModuleHost.Json

open ModuleHost.Text

namespace Reader

/-! ## Values passed over -/

/-- Takes the rest of an escape after its backslash, whatever it stands for. -/
def escapedLoose : Reader Unit := do
  match ← next with
  | .char 'u' => discard hex4
  | .char c => if (shortEscapes.lookup c).isNone then throw .malformed
  | .broken _ => throw .malformed

/-- Takes the rest of a string after its opening quote, whatever it stands for; `fuel` bounds its
length. -/
def stringFromLoose : Nat → Reader Unit
  | 0 => throw .cut
  | fuel + 1 => do
    match ← next with
    | .broken _ => stringFromLoose fuel
    | .char '"' => return
    | .char '\\' =>
      escapedLoose
      stringFromLoose fuel
    | .char c => if c.toNat < 0x20 then throw .malformed else stringFromLoose fuel

/-- Takes the rest of a string after its opening quote, whatever it stands for. -/
def stringBodyLoose : Reader Unit := do
  stringFromLoose ((← get).length + 1)

/-- An open bracket. -/
inductive Bracket where
  | square
  | curly
  deriving DecidableEq

/-- The bracket that closes one. -/
def Bracket.closing : Bracket → Piece
  | .square => .char ']'
  | .curly => .char '}'

/-- Takes what stands before a value in a container: nothing in an array, a key in an object. -/
def skipKey : Bracket → Reader Unit
  | .square => return
  | .curly => do
    if (← nextSolid) ≠ .char '"' then throw .malformed
    stringBodyLoose
    if (← nextSolid) ≠ .char ':' then throw .malformed

/-- Takes the front of a value: a scalar, or the opening bracket of a container. -/
def skipFront : Reader (Option Bracket) := do
  let p ← peek
  if p = .char '"' then
    discard next
    stringBodyLoose
    return none
  else if p = .char '-' ∨ (digit? p).isSome then
    discard (numeral .malformed)
    return none
  else if p = .char '[' then
    discard next
    return some .square
  else if p = .char '{' then
    discard next
    return some .curly
  else if p = .char 'n' then
    literal ['n', 'u', 'l', 'l']
    return none
  else if p = .char 't' then
    literal ['t', 'r', 'u', 'e']
    return none
  else if p = .char 'f' then
    literal ['f', 'a', 'l', 's', 'e']
    return none
  else throw .malformed

/-- Passes over what is left of a value, given its open brackets, innermost first. `due` says
that a value is due next; otherwise one has just ended. Each turn takes a piece, so `fuel` bounds
the turns. -/
def skipFrom : Nat → Bool → List Bracket → Reader Unit
  | _, false, [] => return
  | 0, _, _ => throw .cut
  | fuel + 1, true, opened => do
    match ← skipFront with
    | none => skipFrom fuel false opened
    | some b =>
      if (← peek) = b.closing then
        discard next
        skipFrom fuel false opened
      else
        skipKey b
        skipFrom fuel true (b :: opened)
  | fuel + 1, false, b :: opened => do
    let p ← nextSolid
    if p = .char ',' then
      skipKey b
      skipFrom fuel true (b :: opened)
    else if p = b.closing then skipFrom fuel false opened
    else throw .malformed

/-- Passes over a value of any type. Brackets may be nested to any depth, and numbers and
characters need not be representable. -/
def skip : Reader Unit := do
  skipFrom ((← get).length + 1) true []

/-! ## Scalars -/

/-- Refuses the value at the front: a scalar that is malformed for that, any other value for its
type. -/
def wrongType {α : Type} : Reader α := do
  let p ← peek
  if p = .char '"' then
    discard next
    discard stringBody
  else if p = .char '-' ∨ (digit? p).isSome then discard number
  else if p = .char 'n' then literal ['n', 'u', 'l', 'l']
  else if p = .char 't' then literal ['t', 'r', 'u', 'e']
  else if p = .char 'f' then literal ['f', 'a', 'l', 's', 'e']
  else if p ≠ .char '[' ∧ p ≠ .char '{' then throw .malformed
  throw .mismatch

/-- Takes a string. -/
def text : Reader String := do
  if (← peek) = .char '"' then
    discard next
    stringBody
  else wrongType

/-- Takes a truth value. -/
def truth : Reader Bool := do
  let p ← peek
  if p = .char 't' then
    literal ['t', 'r', 'u', 'e']
    return true
  else if p = .char 'f' then
    literal ['f', 'a', 'l', 's', 'e']
    return false
  else wrongType

/-- Takes an integer that `convert` accepts. -/
def integer {α : Type} (convert : Int → Option α) : Reader α := do
  let p ← peek
  if p = .char '-' ∨ (digit? p).isSome then
    let n : Int ← match ← number with
      | .natural n => pure (n.toNat : Int)
      | .negative n _ => pure n.toInt
      | .float _ _ => throw .mismatch
    match convert n with
    | some a => return a
    | none => throw .mismatch
  else wrongType

/-- Takes a signed integer of 64 bits. -/
def int64 : Reader Int64 :=
  integer fun n =>
    if -0x8000000000000000 ≤ n ∧ n < 0x8000000000000000 then some (Int64.ofInt n) else none

/-- Takes a natural number below `bound`. -/
def natural (bound : Nat) : Reader Nat :=
  integer fun n => if 0 ≤ n ∧ n < bound then some n.toNat else none

/-- Takes `null`, or what `item` takes. -/
def nullable {α : Type} (item : Reader α) : Reader (Option α) := do
  if (← peek) = .char 'n' then
    literal ['n', 'u', 'l', 'l']
    return none
  else some <$> item

/-! ## Containers -/

/-- Takes an array of items. -/
def list {α : Type} (item : Reader α) : Reader (List α) := do
  if (← peek) = .char '[' then
    discard next
    arrayBody item
  else wrongType

/-- Takes an object whose members are all of one type; of two members with one key the later
stays. -/
def dict {α : Type} (item : Reader α) : Reader (Dict String α) := do
  if (← peek) = .char '{' then
    discard next
    objectBody (fun k d => .ok (d.insert k <$> item)) Dict.empty
  else wrongType

end Reader

/-- A member of a record: its name, whether it must be given, and the reader of its value, which
enters the value into the record. -/
structure Member (σ : Type) where
  name : String
  required : Bool
  read : σ → Reader σ

/-- A member that keeps its default when it is absent. -/
def Member.ofOptional {σ α : Type} (name : String) (item : Reader α) (enter : σ → α → σ) :
    Member σ :=
  ⟨name, false, fun st => enter st <$> item⟩

/-- A member that must be given. -/
def Member.ofRequired {σ α : Type} (name : String) (item : Reader α) (enter : σ → α → σ) :
    Member σ :=
  ⟨name, true, fun st => enter st <$> item⟩

namespace Reader

variable {σ : Type}

/-- The reader of a member of a record given as an object, with the names met so far. A name met
twice is refused at its second key; members of other names are passed over. -/
def recordMember (members : List (Member σ)) (k : String) (st : σ × List String) :
    Except ReadError (Reader (σ × List String)) :=
  match members.find? (·.name = k) with
  | none => .ok ((fun _ => st) <$> skip)
  | some m =>
    if st.2.contains k then .error .mismatch
    else .ok ((fun r => (r, k :: st.2)) <$> m.read st.1)

/-- Takes the rest of a record given as the array of its members. Optional members may be absent
at the end. -/
def recordItems : List (Member σ) → Bool → σ → Reader σ
  | [], _, st => do
    if (← nextSolid) = .char ']' then return st else throw .malformed
  | m :: ms, first, st => do
    let p ← peek
    if p = .char ']' then
      discard next
      if (m :: ms).any (·.required) then throw .mismatch else return st
    else if first then recordItems ms false (← m.read st)
    else if p = .char ',' then
      discard next
      recordItems ms false (← m.read st)
    else throw .malformed

/-- Takes a record, starting from its default. -/
def record (members : List (Member σ)) (start : σ) : Reader σ := do
  let p ← peek
  if p = .char '{' then
    discard next
    let (st, met) ← objectBody (recordMember members) (start, [])
    if members.any (fun m => m.required && !met.contains m.name) then throw .mismatch
    else return st
  else if p = .char '[' then
    discard next
    recordItems members true start
  else wrongType

end Reader

end ModuleHost.Json
