import ModuleHost.Json.Basic
import ModuleHost.Number.Shortest

/-!
# Writing JSON

* `Json.compact` — the text without blanks, the members of an object in the order they stand;
* `Json.pretty` — the text with one item a line, two spaces deeper at each level, `[]` and `{}`
  for empty containers;
* `quoted` — a string between quotes: only the quote, the backslash and the characters below
  U+0020 are escaped.
-/

namespace ModuleHost.Json

/-- A hexadecimal digit in lower case. -/
def hexDigit (n : Nat) : Char := Nat.digitChar n

/-- The written form of a character of a string. -/
def escape (c : Char) : List Char :=
  if c = '"' then ['\\', '"']
  else if c = '\\' then ['\\', '\\']
  else if 0x20 ≤ c.toNat then [c]
  else if c = '\n' then ['\\', 'n']
  else if c = '\r' then ['\\', 'r']
  else if c = '\t' then ['\\', 't']
  else if c = '\x08' then ['\\', 'b']
  else if c = '\x0c' then ['\\', 'f']
  else ['\\', 'u', '0', '0', hexDigit (c.toNat / 16), hexDigit (c.toNat % 16)]

/-- A string between quotes. -/
def quoted (s : String) : List Char := '"' :: (s.toList.flatMap escape ++ ['"'])

/-- The text of a number. -/
def Number.chars : Number → List Char
  | .natural n => Number.digitChars n.toNat
  | .negative n _ => '-' :: Number.digitChars n.toInt.natAbs
  | .float x _ => Number.text x

/-- Writes `sep` between the texts. -/
def joined (sep : List Char) : List (List Char) → List Char
  | [] => []
  | [t] => t
  | t :: ts => t ++ sep ++ joined sep ts

/-! ## Compact text -/

mutual

/-- The characters of the compact text. -/
def chars : Json → List Char
  | .null => "null".toList
  | .bool true => "true".toList
  | .bool false => "false".toList
  | .number n => n.chars
  | .string s => quoted s
  | .array items => '[' :: (joined [','] (itemChars items) ++ [']'])
  | .fields entries => '{' :: (joined [','] (entryChars entries) ++ ['}'])

/-- The texts of the items of an array. -/
def itemChars : List Json → List (List Char)
  | [] => []
  | j :: js => chars j :: itemChars js

/-- The texts of the members of an object. -/
def entryChars : List (String × Json) → List (List Char)
  | [] => []
  | (k, j) :: es => (quoted k ++ ':' :: chars j) :: entryChars es

end

/-- The compact text of a value. -/
def compact (j : Json) : String := String.ofList j.chars

/-! ## Text with one item a line -/

/-- The start of a line at a depth. -/
def newLine (depth : Nat) : List Char := '\n' :: List.replicate (2 * depth) ' '

/-- The lines of a container between its brackets. -/
def block (opening closing : Char) (depth : Nat) (texts : List (List Char)) : List Char :=
  if texts.isEmpty then [opening, closing]
  else
    opening :: (newLine (depth + 1) ++ joined (',' :: newLine (depth + 1)) texts ++
      newLine depth ++ [closing])

mutual

/-- The characters of the text at a depth. -/
def prettyChars (depth : Nat) : Json → List Char
  | .array items => block '[' ']' depth (prettyItems (depth + 1) items)
  | .fields entries => block '{' '}' depth (prettyEntries (depth + 1) entries)
  | j => chars j

/-- The texts of the items of an array. -/
def prettyItems (depth : Nat) : List Json → List (List Char)
  | [] => []
  | j :: js => prettyChars depth j :: prettyItems depth js

/-- The texts of the members of an object. -/
def prettyEntries (depth : Nat) : List (String × Json) → List (List Char)
  | [] => []
  | (k, j) :: es =>
    (quoted k ++ ':' :: ' ' :: prettyChars depth j) :: prettyEntries depth es

end

/-- The text of a value with one item a line. -/
def pretty (j : Json) : String := String.ofList (prettyChars 0 j)

end ModuleHost.Json
