import ModuleHost.Wasm.Binary

/-!
# Sections of a file

A file is a header and a list of framed sections: a module, or a component, in which some sections
are files again. Framing can be checked without reading what the sections say.

* `Section` — an id and its payload;
* `Section.wellFramed`, `Section.fitsComponent` — the payload has the outer form that its id asks
  for;
* `Encoding`, `header` — modules and components; how a file begins;
* `sections?` — the sections of a file;
* `Section.custom?` — the name and content of a custom section.
-/

namespace ModuleHost.Wasm

/-- A section of a module file. -/
structure Section where
  id : UInt8
  payload : Bytes
  deriving DecidableEq, Repr

namespace Section

/-- The name and the content of a custom section. -/
def custom? (s : Section) : Option (String × Bytes) :=
  if s.id = 0 then (do return (← Scan.name, ← Scan.remaining) : Scan _).run' s.payload else none

/-- Takes function bodies, each with its length before it. -/
def bodies : Scan (List Bytes) := Scan.vector (do Scan.take (← Scan.u32))

/-- Whether the payload has the outer form that its id asks for: a name in custom sections, one
number in the sections of the start function and of the data count, bodies that fill the code
section, a count at the front of other lists. Sections of unknown ids have any form. -/
def wellFramed (s : Section) : Bool :=
  if s.id = 0 then s.custom?.isSome
  else if s.id = 8 ∨ s.id = 12 then (Scan.all? Scan.u32 s.payload).isSome
  else if s.id = 10 then (Scan.all? bodies s.payload).isSome
  else if s.id ≤ 9 ∨ s.id = 11 ∨ s.id = 13 then (Scan.u32.run s.payload).isSome
  else true

/-- The greatest number of arguments, and of results, of what starts a component. -/
def maxStart : Nat := 1000

/-- Takes what starts a component: a function, its arguments and the number of its results. -/
def componentStart : Scan Unit := do
  let _ ← Scan.u32
  let arguments ← Scan.vector Scan.u32
  guard (arguments.length ≤ maxStart)
  let results ← Scan.u32
  guard (results ≤ maxStart)

/-- Whether the payload has the outer form that its id asks for in a component. -/
def fitsComponent (s : Section) : Bool :=
  if s.id = 0 then s.custom?.isSome
  else if s.id = 9 then (Scan.all? componentStart s.payload).isSome
  else if s.id ≤ 11 then (Scan.u32.run s.payload).isSome
  else true

end Section

/-- Takes one framed section. -/
def framedBy (fits : Section → Bool) : Scan Section := do
  let id ← Scan.byte
  guard (id < 0x80)
  let s : Section := ⟨id, ← Scan.take (← Scan.u32)⟩
  guard (fits s)
  return s

/-- Takes one framed section of a module. -/
def framed : Scan Section := framedBy Section.wellFramed

/-- Takes the sections of a module up to the end; `fuel` bounds their number. -/
def framedFrom : Nat → Scan (List Section)
  | 0 => do
    guard (← get).isEmpty
    return []
  | fuel + 1 => do
    if (← get).isEmpty then return []
    else
      let s ← framed
      return s :: (← framedFrom fuel)

/-- What the sections of a file are. -/
inductive Encoding where
  | module
  | component
  deriving DecidableEq, Repr

/-- Takes the header: the four magic bytes and a version word. Its lower half is the version, its
upper half tells modules from components. -/
def header : Scan (Nat × Encoding) := do
  guard ((← Scan.take 4) = [0x00, 0x61, 0x73, 0x6D])
  match ← Scan.take 4 with
  | [a, b, 0, 0] => return (a.toNat + 256 * b.toNat, .module)
  | [a, b, 1, 0] => return (a.toNat + 256 * b.toNat, .component)
  | _ => failure

/-- Takes a file, given what takes the sections of a module and those of a component. -/
def file (module component : Scan (List Section)) : Scan ((Nat × Encoding) × List Section) := do
  let head ← header
  match head.2 with
  | .module => return (head, ← module)
  | .component => return (head, ← component)

/-- The greatest length of a file inside a component. -/
def maxFile : Nat := Nat.pow 2 30

/-- Takes a section that is a file again. By its length it may end behind the bytes that are left,
but no more than `spare` bytes; `scan` takes the file, given how many bytes behind them it ends. -/
def held {α : Type} (scan : Nat → Scan α) (spare : Nat) : Scan α := do
  let _ ← Scan.byte
  let n ← Scan.u32
  let left ← get
  guard (n ≤ maxFile ∧ n - left.length ≤ spare)
  match Scan.all? (scan (n - left.length)) (left.take n) with
  | some a => set (left.drop n); return a
  | none => failure

/-- Takes the sections of a component up to the end, behind which files in it may end by `spare`
bytes. The sections of these files take their place; of its own, custom sections are kept. -/
def componentFrom : Nat → Nat → Scan (List Section)
  | 0, _ => do
    guard (← get).isEmpty
    return []
  | fuel + 1, spare => do
    match ← get with
    | [] => return []
    | id :: _ =>
      if id = 1 ∨ id = 4 then
        let inner ← held (fun spare => file (framedFrom fuel) (componentFrom fuel spare)) spare
        return inner.2 ++ (← componentFrom fuel spare)
      else
        let s ← framedBy Section.fitsComponent
        return [s].filter (·.id = 0) ++ (← componentFrom fuel spare)

/-- The version, the encoding and the sections of a file, if it is well framed. -/
def file? (bytes : Bytes) : Option ((Nat × Encoding) × List Section) :=
  Scan.all? (file (framedFrom bytes.length) (componentFrom bytes.length maxFile)) bytes

/-- The sections of a file, if it is well framed. -/
def sections? (bytes : Bytes) : Option (List Section) := (file? bytes).map (·.2)

end ModuleHost.Wasm
