import ModuleHost.Json.Basic
import ModuleHost.Text.Utf8

/-!
# Reading JSON

Readers take text from the left and give back what remains. A text is refused for one of three
causes, and the first cause met decides.

* `ReadError` — the text ends too early, is malformed, or holds a value of another type;
* `Reader`, `Reader.whole` — a reader; the reading of a text that nothing may follow;
* `Reader.peek`, `Reader.literal`, `Reader.numeral`, `Reader.stringBody` — the parts of a value;
* `Reader.NumberText.value` — the number that a numeral stands for;
* `Reader.arrayBody`, `Reader.objectBody` — the items of an array, the members of an object;
* `Reader.value`, `parse` — a value with at most 127 open brackets; the value of a whole text.
-/

namespace ModuleHost.Json

open ModuleHost.Text

/-- Why a text is refused: it ends inside a value, it is malformed, or a value is not of the type
asked for. -/
inductive ReadError where
  | cut
  | malformed
  | mismatch
  deriving DecidableEq, Repr

/-- The text shown for a cause of refusal. -/
def ReadError.tag : ReadError → String
  | .cut => "<json eof>"
  | .malformed => "<json syntax>"
  | .mismatch => "<json data>"

/-- The text shown where the cause is not told. -/
def ReadError.plainTag : ReadError → String := fun _ => "<json>"

/-- A reader of values of type `α`. -/
abbrev Reader (α : Type) := StateT Text (Except ReadError) α

namespace Reader

/-! ## Blanks and single characters -/

/-- The four blanks of JSON. -/
def isBlankPiece (p : Piece) : Bool :=
  p = .char ' ' || p = .char '\t' || p = .char '\n' || p = .char '\r'

/-- Passes over blanks. -/
def blanks : Reader Unit := modify (List.dropWhile isBlankPiece)

/-- The first piece after blanks, left in place. -/
def peek : Reader Piece := do
  blanks
  match ← get with
  | [] => throw .cut
  | p :: _ => return p

/-- Takes one piece. -/
def next : Reader Piece := do
  match ← get with
  | [] => throw .cut
  | p :: rest => set rest; return p

/-- Takes the first piece after blanks. -/
def nextSolid : Reader Piece := do
  blanks
  next

/-- Takes the characters of a word. -/
def literal : List Char → Reader Unit
  | [] => return
  | c :: cs => do
    if (← next) = .char c then literal cs else throw .malformed

/-! ## Numbers -/

/-- The value of a decimal digit. -/
def digit? : Piece → Option Nat
  | .char c => if '0' ≤ c ∧ c ≤ '9' then some (c.toNat - '0'.toNat) else none
  | .broken _ => none

/-- Takes the digits at the front. -/
def digits : Reader (List Nat) := do
  let s ← get
  set (s.dropWhile fun p => (digit? p).isSome)
  return (s.takeWhile fun p => (digit? p).isSome).filterMap digit?

/-- Takes one digit or more; `ended` is the cause when the text stops short. -/
def someDigits (ended : ReadError) : Reader (List Nat) := do
  match ← get with
  | [] => throw ended
  | p :: _ => if (digit? p).isSome then digits else throw .malformed

/-- Takes `p` if it is at the front. -/
def optional (p : Piece → Bool) : Reader (Option Piece) := do
  match ← get with
  | [] => return none
  | q :: rest => if p q then set rest; return some q else return none

/-- The parts of a numeral: sign, digits before and after the point, exponent. -/
structure NumberText where
  negative : Bool
  whole : List Nat
  fraction : Option (List Nat)
  exponent : Option Int

/-- The natural number of a list of digits. -/
def ofDigits (ds : List Nat) : Nat := ds.foldl (fun n d => 10 * n + d) 0

/-- Takes a numeral. No digit follows a leading zero, and digits stand on both sides of a
point. -/
def numeral (ended : ReadError) : Reader NumberText := do
  let sign ← optional (· = .char '-')
  let whole ← someDigits ended
  if whole.head? = some 0 ∧ 1 < whole.length then throw .malformed
  let fraction ← match ← optional (· = .char '.') with
    | some _ => some <$> someDigits ended
    | none => pure none
  let exponent ← match ← optional (fun p => p = .char 'e' || p = .char 'E') with
    | some _ =>
      let mark ← optional (fun p => p = .char '+' || p = .char '-')
      let ds ← someDigits ended
      pure (some (if mark = some (.char '-') then -(ofDigits ds : Int) else ofDigits ds))
    | none => pure none
  return ⟨sign.isSome, whole, fraction, exponent⟩

/-- The greatest natural number of 64 bits. -/
def maxNatural : Nat := 0xFFFFFFFFFFFFFFFF

/-- The leading digits that keep `n` within 64 bits are added to it; the others are left. -/
def gather : Nat → List Nat → Nat × List Nat
  | n, [] => (n, [])
  | n, d :: ds => if 10 * n + d ≤ maxNatural then gather (10 * n + d) ds else (n, d :: ds)

/-- The magnitude `f * 10 ^ e`, by one product or quotient with a power of ten up to `1e308`;
smaller exponents take a quotient with `1e308` first. -/
def scale (f : Binary64) (e : Int) : Binary64 :=
  if 0 ≤ e then
    if f.unsigned = 0 then f
    else if e ≤ 308 then f.times (.ofNat (Nat.pow 10 e.toNat))
    else ⟨UInt64.ofNat Binary64.infinityBits⟩
  else if -308 ≤ e then f.quotient (.ofNat (Nat.pow 10 (-e).toNat))
  else if f.unsigned = 0 then f
  else scale (f.quotient (.ofNat (Nat.pow 10 308))) (e + 308)
termination_by (-e).toNat

/-- The binary64 number of a numeral: the digits that fit 64 bits, scaled. Whole digits beyond
those count as a factor of ten each, fraction digits beyond those are dropped. -/
def NumberText.float (t : NumberText) : Binary64 :=
  let (n, left) := gather 0 t.whole
  let fraction := t.fraction.getD []
  let (n, left') := gather n fraction
  let places : Int := fraction.length - left'.length
  let f := scale (.ofNat n) (left.length - places + t.exponent.getD 0)
  if t.negative then f.neg else f

/-- The number of a numeral. Without point and exponent it is an integer if 64 bits hold it, a
negative zero apart; a numeral beyond every finite number is refused. -/
def NumberText.value (t : NumberText) : Except ReadError Number :=
  let n := ofDigits t.whole
  if t.fraction.isNone ∧ t.exponent.isNone ∧ n ≤ maxNatural ∧ ¬ t.negative then
    .ok (.natural (UInt64.ofNat n))
  else if h : t.fraction.isNone ∧ t.exponent.isNone ∧ t.negative ∧ n ≤ 0x8000000000000000 ∧
      Int64.ofInt (-n) < 0 then
    .ok (.negative (Int64.ofInt (-n)) h.2.2.2.2)
  else if h : t.float.isFinite = true then .ok (.float t.float h)
  else .error .malformed

/-- Takes a number. -/
def number : Reader Number := do
  (← numeral .cut).value

/-! ## Strings -/

/-- The value of a hexadecimal digit. -/
def hexValue? : Piece → Option Nat
  | .char c =>
    if '0' ≤ c ∧ c ≤ '9' then some (c.toNat - '0'.toNat)
    else if 'a' ≤ c ∧ c ≤ 'f' then some (c.toNat - 'a'.toNat + 10)
    else if 'A' ≤ c ∧ c ≤ 'F' then some (c.toNat - 'A'.toNat + 10)
    else none
  | .broken _ => none

/-- Takes the four digits of a numbered escape. A text with fewer than four bytes left is cut. -/
def hex4 : Reader Nat := do
  match ← get with
  | a :: b :: c :: d :: rest =>
    match hexValue? a, hexValue? b, hexValue? c, hexValue? d with
    | some a, some b, some c, some d =>
      set rest
      return ((a * 16 + b) * 16 + c) * 16 + d
    | _, _, _, _ => throw .malformed
  | s => if Text.width s < 4 then throw .cut else throw .malformed

/-- The escapes of one character. -/
def shortEscapes : List (Char × Char) :=
  [('"', '"'), ('\\', '\\'), ('/', '/'), ('b', '\x08'), ('f', '\x0c'), ('n', '\n'), ('r', '\r'),
   ('t', '\t')]

/-- Takes the rest of an escape after its backslash. Characters above U+FFFF are written as a
leading and a trailing surrogate; neither stands alone. -/
def escaped : Reader Char := do
  let p ← next
  match p with
  | .char 'u' =>
    let n ← hex4
    if 0xDC00 ≤ n ∧ n ≤ 0xDFFF then throw .malformed
    else if 0xD800 ≤ n ∧ n ≤ 0xDBFF then
      literal ['\\', 'u']
      let m ← hex4
      if 0xDC00 ≤ m ∧ m ≤ 0xDFFF then
        return Char.ofNat (0x10000 + (n - 0xD800) * 0x400 + (m - 0xDC00))
      else throw .malformed
    else return Char.ofNat n
  | .char c =>
    match shortEscapes.lookup c with
    | some c => return c
    | none => throw .malformed
  | .broken _ => throw .malformed

/-- Takes the rest of a string after its opening quote. Broken pieces make it malformed where it
ends; `fuel` bounds its length. -/
def stringFrom : Nat → List Char → Bool → Reader String
  | 0, _, _ => throw .cut
  | fuel + 1, taken, sound => do
    match ← next with
    | .broken _ => stringFrom fuel taken false
    | .char '"' => if sound then return String.ofList taken.reverse else throw .malformed
    | .char '\\' =>
      let c ← escaped
      stringFrom fuel (c :: taken) sound
    | .char c => if c.toNat < 0x20 then throw .malformed else stringFrom fuel (c :: taken) sound

/-- Takes the rest of a string after its opening quote. -/
def stringBody : Reader String := do
  stringFrom ((← get).length + 1) [] true

/-! ## Containers -/

/-- Takes items up to the closing bracket of an array; `fuel` bounds their number. -/
def itemsFrom {α : Type} (item : Reader α) : Nat → Reader (List α)
  | 0 => throw .cut
  | fuel + 1 => do
    let a ← item
    match ← nextSolid with
    | .char ',' => return a :: (← itemsFrom item fuel)
    | .char ']' => return [a]
    | _ => throw .malformed

/-- Takes the rest of an array after its opening bracket. -/
def arrayBody {α : Type} (item : Reader α) : Reader (List α) := do
  if (← peek) = .char ']' then
    discard next
    return []
  else itemsFrom item (← get).length

/-- Takes the key of a member. -/
def key : Reader String := do
  if (← nextSolid) = .char '"' then stringBody else throw .malformed

/-- Takes members up to the closing bracket of an object, each by the reader that `member` gives
for its key and the state so far; `fuel` bounds their number. -/
def membersFrom {σ : Type} (member : String → σ → Except ReadError (Reader σ)) :
    Nat → σ → Reader σ
  | 0, _ => throw .cut
  | fuel + 1, st => do
    let k ← key
    let value ← member k st
    if (← nextSolid) ≠ .char ':' then throw .malformed
    let st ← value
    match ← nextSolid with
    | .char ',' => membersFrom member fuel st
    | .char '}' => return st
    | _ => throw .malformed

/-- Takes the rest of an object after its opening bracket. -/
def objectBody {σ : Type} (member : String → σ → Except ReadError (Reader σ)) (st : σ) :
    Reader σ := do
  if (← peek) = .char '}' then
    discard next
    return st
  else membersFrom member (← get).length st

/-! ## Values -/

/-- Takes a value that opens at most `depth` brackets. -/
def value (depth : Nat) : Reader Json := do
  let p ← peek
  if p = .char '"' then
    discard next
    return .string (← stringBody)
  else if p = .char '-' ∨ (digit? p).isSome then
    return .number (← number)
  else if p = .char '[' then
    discard next
    match depth with
    | 0 => throw .malformed
    | depth + 1 => return .array (← arrayBody (value depth))
  else if p = .char '{' then
    discard next
    match depth with
    | 0 => throw .malformed
    | depth + 1 =>
      let entries ← objectBody (fun k es => .ok ((fun j => (k, j) :: es) <$> value depth)) []
      return .object entries.reverse
  else if p = .char 'n' then
    literal ['n', 'u', 'l', 'l']
    return .null
  else if p = .char 't' then
    literal ['t', 'r', 'u', 'e']
    return .bool true
  else if p = .char 'f' then
    literal ['f', 'a', 'l', 's', 'e']
    return .bool false
  else throw .malformed

/-- The greatest number of open brackets. -/
def maxDepth : Nat := 127

/-- Reads a whole text: nothing but blanks follows the value. -/
def whole {α : Type} (r : Reader α) (t : Text) : Except ReadError α := do
  let (a, rest) ← r.run t
  if (rest.dropWhile isBlankPiece).isEmpty then return a else throw .malformed

end Reader

/-- The value of a text. -/
def parseText (t : Text) : Except ReadError Json := (Reader.value Reader.maxDepth).whole t

/-- The value of a string. -/
def parse (s : String) : Except ReadError Json := parseText (Text.ofString s)

/-- The value of a run of bytes. -/
def parseBytes (bytes : List UInt8) : Except ReadError Json := parseText (Text.decode bytes)

end ModuleHost.Json
