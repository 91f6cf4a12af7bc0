import ModuleHost.Proofs.Interface.Metadata
import ModuleHost.Proofs.Wasm.Nesting

/-!
# Finding the metadata

* `Interface.metadata` — what the metadata sections of a file hold, in order;
* `Interface.sectionContent?_eq` — the last of them is taken;
* `Interface.parse_ne_notWasm` — metadata is not refused for the framing of its file;
* **`Interface.finds`**: the interface of a file depends on its last metadata section alone, and
  there is none if the framing breaks anywhere.
-/

namespace ModuleHost

open Wasm (Chunk FramedAs Row Section WellFramed)

namespace Interface

/-- What a section holds if it is a metadata section. -/
def metadata? : Chunk → Option Bytes
  | .custom name content => if name = sectionName then some content else none
  | .plain _ _ => none

/-- What the metadata sections among these hold, in order. -/
def metadata (chunks : List Chunk) : List Bytes := chunks.filterMap metadata?

theorem sectionContent?_eq (sections : List Section) :
    sectionContent? sections = (metadata (sections.map Section.chunk)).getLast? := by
  have hcontent : ∀ s : Section, metadata? s.chunk =
      (s.custom?.filter (·.1 = sectionName)).map (·.2) := fun s => by
    rw [Section.chunk]
    cases s.custom? with
    | none => rfl
    | some custom =>
      obtain ⟨name, content⟩ := custom
      by_cases hname : name = sectionName <;> simp [metadata?, hname, Option.filter]
  have hcontents : metadata (sections.map Section.chunk) =
      ((sections.filterMap Section.custom?).filter (·.1 = sectionName)).map (·.2) := by
    rw [metadata, List.filterMap_map, List.filter_filterMap, List.map_filterMap]
    exact congrArg (List.filterMap · sections) (funext hcontent)
  rw [sectionContent?, hcontents, List.getLast?_map]

/-- Metadata is not refused for the framing of its file, nor for being missing. -/
theorem parse_ne_notWasm (raw : Text) : parse raw ≠ .error .notWasm := by
  unfold parse
  split
  · simp
  · next i _ =>
    split
    · simp
    · next e he =>
      cases check_eq_error.1 he <;> simp

/-- The interface of a well-framed file is read from its last metadata section. -/
theorem ofModule_of_wellFramed {chunks : List Chunk} {bytes : Bytes} (h : WellFramed chunks bytes) :
    ofModule bytes = match (metadata chunks).getLast? with
      | none => .error .missing
      | some content => parse (Text.decode content) := by
  obtain ⟨sections, hsections, rfl⟩ := Wasm.wellFramed_iff.1 h
  rw [← sectionContent?_eq]
  unfold ofModule
  cases hcontent : sectionContent? sections <;> simp [hsections, hcontent]

theorem ofModule_eq_notWasm {bytes : Bytes} :
    ofModule bytes = .error .notWasm ↔ ¬∃ chunks, WellFramed chunks bytes := by
  constructor
  · rintro h ⟨chunks, hchunks⟩
    rw [ofModule_of_wellFramed hchunks] at h
    split at h
    · cases h
    · exact parse_ne_notWasm _ h
  · intro h
    have hnone : Wasm.sections? bytes = none := by
      rw [Option.eq_none_iff_forall_ne_some]
      intro sections hsections
      exact h ⟨_, Wasm.wellFramed_iff.2 ⟨sections, hsections, rfl⟩⟩
    rw [ofModule, hnone]

/-- **Where the interface of a file comes from.** That of a well-framed file is read from its last
metadata section, or missing if there is none; files with the same last metadata section have the
same interface, whatever their other sections are and wherever they stand. A file is refused for its
framing if and only if it is not well framed, and so is any that goes on, behind the sections of a
module, with what is not sections. -/
theorem finds :
    (∀ (chunks : List Chunk) (bytes : Bytes), WellFramed chunks bytes →
      ofModule bytes = match (metadata chunks).getLast? with
        | none => .error .missing
        | some content => parse (Text.decode content)) ∧
    (∀ (chunks chunks' : List Chunk) (bytes bytes' : Bytes), WellFramed chunks bytes →
      WellFramed chunks' bytes' → (metadata chunks).getLast? = (metadata chunks').getLast? →
        ofModule bytes = ofModule bytes') ∧
    (∀ bytes : Bytes, ofModule bytes = .error .notWasm ↔ ¬∃ chunks, WellFramed chunks bytes) ∧
    ∀ (chunks : List Chunk) (bytes tail : Bytes), FramedAs .module chunks bytes →
      (¬∃ more, Row Chunk.Spelled more tail) → ofModule (bytes ++ tail) = .error .notWasm := by
  refine ⟨fun chunks bytes h => ofModule_of_wellFramed h,
    fun chunks chunks' bytes bytes' h h' hlast => ?_, fun bytes => ofModule_eq_notWasm,
    fun chunks bytes tail h htail => ?_⟩
  · rw [ofModule_of_wellFramed h, ofModule_of_wellFramed h', hlast]
  · rw [ofModule_eq_notWasm]
    rintro ⟨chunks', h'⟩
    obtain ⟨more, -, hmore⟩ := h.rest h'
    exact htail ⟨more, hmore⟩

/-- A file of short sections. -/
def shortFile (sections : List Section) : Bytes :=
  [0x00, 0x61, 0x73, 0x6D, 1, 0, 0, 0] ++
    sections.flatMap fun s => s.id :: UInt8.ofNat s.payload.length :: s.payload

/-- A metadata section. -/
def metadataSection (content : Bytes) : Section := ⟨0, 15 :: Text.bytes sectionName ++ content⟩

/-- Two metadata sections, the first one malformed, with others between and behind them. -/
def twoMetadata : List Section :=
  [metadataSection [0x5B], ⟨5, [1, 0, 1]⟩, metadataSection [0x7B, 0x7D], ⟨0, [1, 0x6E, 9]⟩]

/-- The last metadata section alone, behind sections of other kinds. -/
def oneMetadata : List Section := [⟨42, []⟩, ⟨8, [0x80, 0]⟩, metadataSection [0x7B, 0x7D]]

/-- A component that holds that file. -/
def metadataComponent : Bytes :=
  [0x00, 0x61, 0x73, 0x6D, 13, 0, 1, 0, 1, UInt8.ofNat (shortFile oneMetadata).length] ++
    shortFile oneMetadata

theorem finds_twoMetadata :
    FramedAs .module (twoMetadata.map Section.chunk) (shortFile twoMetadata) ∧
      WellFramed (twoMetadata.map Section.chunk) (shortFile twoMetadata) ∧
      FramedAs .component (oneMetadata.map Section.chunk) metadataComponent ∧
      WellFramed (oneMetadata.map Section.chunk) metadataComponent ∧
      ofModule (shortFile twoMetadata) = parse (Text.decode [0x7B, 0x7D]) ∧
      ofModule metadataComponent = ofModule (shortFile twoMetadata) ∧
      (¬∃ more, Row Chunk.Spelled more [0]) ∧
      ofModule (shortFile twoMetadata ++ [0]) = .error .notWasm := by
  have htwo : FramedAs .module (twoMetadata.map Section.chunk) (shortFile twoMetadata) :=
    Wasm.framedAs_iff.2 ⟨1, twoMetadata, by decide +kernel, rfl⟩
  have hone : FramedAs .component (oneMetadata.map Section.chunk) metadataComponent :=
    Wasm.framedAs_iff.2 ⟨13, oneMetadata, by decide +kernel, rfl⟩
  have hlast : (metadata (twoMetadata.map Section.chunk)).getLast? = some [0x7B, 0x7D] := by
    decide +kernel
  have hsame : (metadata (oneMetadata.map Section.chunk)).getLast? =
      (metadata (twoMetadata.map Section.chunk)).getLast? := by decide +kernel
  have htail : ¬∃ more, Row Chunk.Spelled more [0] := by
    rintro ⟨more, hmore⟩
    obtain ⟨sections, -, hsections⟩ := Wasm.row_chunks.1 hmore
    have hrun := Wasm.framedFrom_eq_some.2 ⟨rfl, Wasm.length_le_of_row hsections, hsections⟩
    cases hrun
  have hread := finds.1 _ _ ⟨_, htwo⟩
  rw [hlast] at hread
  exact ⟨htwo, ⟨_, htwo⟩, hone, ⟨_, hone⟩, hread, finds.2.1 _ _ _ _ ⟨_, hone⟩ ⟨_, htwo⟩ hsame, htail,
    finds.2.2.2 _ _ _ htwo htail⟩

end Interface

end ModuleHost
