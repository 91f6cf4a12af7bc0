/-!
# Bytes as text

Guest memory and module files hold bytes; names, messages and JSON are text. One reading of the
bytes serves all three uses.

* `Piece`, `Text` — a character, or a run of bytes that is the start of none;
* `decode` — the UTF-8 reading: characters, and one broken piece per maximal ill-formed run;
* `strict?`, `lossy` — the text of well-formed bytes; the text with U+FFFD for each broken piece;
* `ofString` — the pieces of a string, none of them broken.
-/

namespace ModuleHost

/-- A character, or a maximal run of `width` bytes that begins no character. -/
inductive Text.Piece where
  | char (c : Char)
  | broken (width : Nat)
  deriving DecidableEq, Repr

/-- Text as it may arrive: characters with broken pieces between them. -/
abbrev Text := List Text.Piece

namespace Text

/-- The number of bytes a piece takes. -/
def Piece.width : Piece → Nat
  | .char c => c.utf8Size
  | .broken n => n

/-- The number of bytes a text takes. -/
def width (t : Text) : Nat := t.foldl (fun n p => n + p.width) 0

/-- The pieces of a string. -/
def ofString (s : String) : Text := s.toList.map .char

/-! ## Decoding -/

/-- A character begun: its value so far, the bytes seen, the bytes owed and the bounds of the
next one. -/
structure Begun where
  value : Nat
  seen : Nat
  owed : Nat
  low : UInt8
  high : UInt8

/-- The value of a begun character with one more byte. -/
def Begun.push (s : Begun) (b : UInt8) : Begun :=
  ⟨s.value * 64 + (b.toNat - 0x80), s.seen + 1, s.owed - 1, 0x80, 0xBF⟩

/-- Whether `b` may continue the character. -/
def Begun.accepts (s : Begun) (b : UInt8) : Bool := s.low ≤ b && b ≤ s.high

/-- A byte between characters: the pieces it completes and the character it begins. The bounds on
the second byte keep out overlong forms, surrogates and values above U+10FFFF. -/
def lead (b : UInt8) : Text × Option Begun :=
  if b ≤ 0x7F then ([.char (Char.ofNat b.toNat)], none)
  else if 0xC2 ≤ b ∧ b ≤ 0xDF then ([], some ⟨b.toNat - 0xC0, 1, 1, 0x80, 0xBF⟩)
  else if b = 0xE0 then ([], some ⟨0, 1, 2, 0xA0, 0xBF⟩)
  else if b = 0xED then ([], some ⟨0xD, 1, 2, 0x80, 0x9F⟩)
  else if 0xE1 ≤ b ∧ b ≤ 0xEF then ([], some ⟨b.toNat - 0xE0, 1, 2, 0x80, 0xBF⟩)
  else if b = 0xF0 then ([], some ⟨0, 1, 3, 0x90, 0xBF⟩)
  else if 0xF1 ≤ b ∧ b ≤ 0xF3 then ([], some ⟨b.toNat - 0xF0, 1, 3, 0x80, 0xBF⟩)
  else if b = 0xF4 then ([], some ⟨4, 1, 3, 0x80, 0x8F⟩)
  else ([.broken 1], none)

/-- One byte: the pieces it completes and the character it leaves begun. A byte that does not
continue the character before it ends a broken piece and is read as a first byte. -/
def step : Option Begun → UInt8 → Text × Option Begun
  | none, b => lead b
  | some s, b =>
    if s.accepts b then
      if s.owed ≤ 1 then ([.char (Char.ofNat (s.push b).value)], none) else ([], some (s.push b))
    else (.broken s.seen :: (lead b).1, (lead b).2)

/-- The pieces of the bytes to come, with a character begun or not. -/
def decodeFrom : Option Begun → List UInt8 → Text
  | none, [] => []
  | some s, [] => [.broken s.seen]
  | s, b :: rest => (step s b).1 ++ decodeFrom (step s b).2 rest

/-- The pieces of a run of bytes. -/
def decode (bytes : List UInt8) : Text := decodeFrom none bytes

/-- The character of a piece, if it is one. -/
def Piece.char? : Piece → Option Char
  | .char c => some c
  | .broken _ => none

/-- The text of well-formed bytes. -/
def strict? (bytes : List UInt8) : Option String :=
  ((decode bytes).mapM Piece.char?).map String.ofList

/-- The text of any bytes, with U+FFFD in the place of each broken piece. -/
def lossy (bytes : List UInt8) : String :=
  String.ofList ((decode bytes).map fun p => p.char?.getD '\uFFFD')

/-- The bytes of a string. -/
def bytes (s : String) : List UInt8 := s.toUTF8.toList

end Text

end ModuleHost
