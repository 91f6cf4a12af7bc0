import ModuleHost.Interface.Basic
import ModuleHost.Wasm.Types

/-!
# Summary of a module file

* `ExternEntry`, `Summary` — an import or export as shown; the metadata, imports and exports of a
  module;
* `Summary.ofModule` — the summary of a module file;
* `Summary.toJson`, `Summary.lines` — how it is shown.
-/

namespace ModuleHost

/-- An import or export as shown. -/
structure ExternEntry where
  /-- The module an import comes from. -/
  module : Option String
  name : String
  kind : Wasm.ExternKind
  deriving DecidableEq, Repr

/-- What a module file says about itself. -/
structure Summary where
  interface : Except InterfaceError Interface
  imports : List ExternEntry
  exports : List ExternEntry

namespace Summary

open Wasm (Section Scan)

/-- The entries of an import section; none in other sections. -/
def importsOf (s : Section) : Option (List ExternEntry) :=
  if s.id = 2 then
    (Scan.all? (Scan.vector Wasm.Import.scan) s.payload).map
      (·.map fun i => ⟨some i.module, i.name, i.type.kind⟩)
  else some []

/-- The entries of an export section; none in other sections. -/
def exportsOf (s : Section) : Option (List ExternEntry) :=
  if s.id = 7 then
    (Scan.all? (Scan.vector Wasm.Export.scan) s.payload).map
      (·.map fun e => ⟨none, e.name, e.kind⟩)
  else some []

/-- The summary of a module file. The entries of all import and export sections are read. -/
def ofModule (bytes : Bytes) : Except InterfaceError Summary :=
  match Wasm.sections? bytes with
  | none => .error .notWasm
  | some sections =>
    match sections.mapM importsOf, sections.mapM exportsOf with
    | some imports, some exports =>
      .ok ⟨Interface.ofModule bytes, imports.flatten, exports.flatten⟩
    | _, _ => .error .notWasm

/-- The object of an entry. -/
def entryToJson (e : ExternEntry) : Json :=
  .fields [("module", (e.module.map Json.string).getD .null), ("name", .string e.name),
    ("kind", .string e.kind.name)]

/-- The object of a summary. -/
def toJson (s : Summary) : Json :=
  let interface := match s.interface with
    | .ok i => [("interface", i.toJson)]
    | .error e => [("interface", .null), ("interface_error", .string e.plainMessage)]
  .fields (interface ++ [("imports", .array (s.imports.map entryToJson)),
    ("exports", .array (s.exports.map entryToJson))])

/-- The line that shows a function. -/
def functionLine (f : FunctionSignature) : String :=
  "  " ++ f.name ++ "(" ++ String.intercalate ", " f.params ++ ")"

/-- The line that shows an import. -/
def importLine (i : ExternEntry) : String :=
  "  " ++ i.module.getD "" ++ "::" ++ i.name ++ " (" ++ i.kind.name ++ ")"

/-- The line that shows an export. -/
def exportLine (e : ExternEntry) : String := "  " ++ e.name ++ " (" ++ e.kind.name ++ ")"

/-- The lines of a list under its heading; none for an empty list. -/
def listing (heading : String) (lines : List String) : List String :=
  if lines.isEmpty then [] else heading :: lines

/-- The lines that show a summary. -/
def lines (s : Summary) : List String :=
  let functions := match s.interface with
    | .ok i => "functions:" :: i.functions.map functionLine
    | .error e => ["functions: unavailable (" ++ e.plainMessage ++ ")"]
  functions ++ listing "imports:" (s.imports.map importLine) ++
    listing "exports:" (s.exports.map exportLine)

end Summary

end ModuleHost
