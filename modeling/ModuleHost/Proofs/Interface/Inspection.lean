import Mathlib.Data.List.Forall2
import ModuleHost.Interface.Summary
import ModuleHost.Proofs.Interface.Sections
import ModuleHost.Proofs.Wasm.Entries

/-!
# Summaries of files

* `ExternEntry.ofImport`, `ExternEntry.ofExport` — imports and exports as shown;
* `payloads` — the payloads of the sections of an id;
* `Summary.entriesOf`, `Summary.mapM_entriesOf` — the entries of the sections of an id, in order;
* **`Summary.ofModule_eq_ok`**: what a summary holds, and of which files there is one;
* **`Summary.agrees`**: a summary and the metadata reader see the same interface, and all imports
  and exports are shown.
-/

namespace ModuleHost

open Wasm (Chunk Listed Scan Section WellFramed)

/-- An import as shown. -/
def ExternEntry.ofImport (i : Wasm.Import) : ExternEntry := ⟨some i.module, i.name, i.type.kind⟩

/-- An export as shown. -/
def ExternEntry.ofExport (e : Wasm.Export) : ExternEntry := ⟨none, e.name, e.kind⟩

/-- The payload of a section of an id; custom sections aside. -/
def payload? (id : UInt8) : Chunk → Option Bytes
  | .custom _ _ => none
  | .plain other payload => if other = id then some payload else none

/-- The payloads of the sections of an id, in order. -/
def payloads (id : UInt8) (chunks : List Chunk) : List Bytes := chunks.filterMap (payload? id)

/-- The entries of all sections of an id, one section after the other: the payload of each lists its
entries. -/
def Enumerated {α : Type} (id : UInt8) (Spelled : α → Bytes → Prop) (chunks : List Chunk)
    (as : List α) : Prop :=
  ∃ lists, List.Forall₂ (Listed Spelled) lists (payloads id chunks) ∧ as = lists.flatten

namespace Summary

/-! ## Entries -/

section

variable {α : Type} {id : UInt8} {item : Scan α} {Spelled : α → Bytes → Prop} {f : α → ExternEntry}

/-- The entries of a section of an id; none in other sections. -/
def entriesOf (id : UInt8) (item : Scan α) (f : α → ExternEntry) (s : Section) :
    Option (List ExternEntry) :=
  if s.id = id then (Scan.all? (Scan.vector item) s.payload).map (·.map f) else some []

theorem payload?_chunk (hid : id ≠ 0) (s : Section) :
    payload? id s.chunk = if s.id = id then some s.payload else none := by
  by_cases hs : s.id = 0
  · rw [if_neg fun h => hid (h.symm.trans hs), Section.chunk]
    cases s.custom? with
    | none => rw [payload?, if_neg fun h => hid (h.symm.trans hs)]
    | some custom => rfl
  · rw [Section.chunk_eq_plain hs, payload?]

theorem enumerated_nil {as : List α} : Enumerated id Spelled [] as ↔ as = [] := by
  constructor
  · rintro ⟨_, hlists, rfl⟩
    cases hlists
    rfl
  · rintro rfl
    exact ⟨[], .nil, rfl⟩

theorem enumerated_cons_of_eq (hid : id ≠ 0) {s : Section} (hs : s.id = id)
    {sections : List Section} {as : List α} :
    Enumerated id Spelled ((s :: sections).map Section.chunk) as ↔
      ∃ front back, Listed Spelled front s.payload ∧
        Enumerated id Spelled (sections.map Section.chunk) back ∧ front ++ back = as := by
  have hpayloads : payloads id ((s :: sections).map Section.chunk) =
      s.payload :: payloads id (sections.map Section.chunk) :=
    List.filterMap_cons_some (by rw [payload?_chunk hid, if_pos hs])
  constructor
  · rintro ⟨_, hlists, rfl⟩
    rw [hpayloads] at hlists
    cases hlists with
    | @cons front _ lists _ hfront hlists =>
      exact ⟨front, lists.flatten, hfront, ⟨lists, hlists, rfl⟩, rfl⟩
  · rintro ⟨front, _, hfront, ⟨lists, hlists, rfl⟩, rfl⟩
    exact ⟨front :: lists, hpayloads ▸ .cons hfront hlists, rfl⟩

theorem enumerated_cons_of_ne (hid : id ≠ 0) {s : Section} (hs : s.id ≠ id)
    {sections : List Section} {as : List α} :
    Enumerated id Spelled ((s :: sections).map Section.chunk) as ↔
      Enumerated id Spelled (sections.map Section.chunk) as := by
  have hpayloads : payloads id ((s :: sections).map Section.chunk) =
      payloads id (sections.map Section.chunk) :=
    List.filterMap_cons_none (by rw [payload?_chunk hid, if_neg hs])
  rw [Enumerated, hpayloads, Enumerated]

/-- **The entries of all sections of an id**, in order: there are some if and only if the payload of
each of these sections is a list of them. -/
theorem mapM_entriesOf (hid : id ≠ 0) (h : Scan.Reads item Spelled) {sections : List Section}
    {entries : List ExternEntry} :
    (∃ lists, sections.mapM (entriesOf id item f) = some lists ∧ lists.flatten = entries) ↔
      ∃ as, Enumerated id Spelled (sections.map Section.chunk) as ∧ as.map f = entries := by
  induction sections generalizing entries with
  | nil =>
    simp only [List.mapM_nil, Option.pure_def, Option.some.injEq, List.map_nil, enumerated_nil,
      exists_eq_left, exists_eq_left', List.flatten_nil]
  | cons s sections ih =>
    have hmapM : (∃ lists, (s :: sections).mapM (entriesOf id item f) = some lists ∧
        lists.flatten = entries) ↔ ∃ front, entriesOf id item f s = some front ∧
          ∃ rest, (∃ lists, sections.mapM (entriesOf id item f) = some lists ∧
            lists.flatten = rest) ∧ front ++ rest = entries := by
      simp only [List.mapM_cons, Option.bind_eq_bind, Option.bind_eq_some_iff, Option.pure_def,
        Option.some.injEq]
      constructor
      · rintro ⟨_, ⟨front, hfront, lists, hlists, rfl⟩, rfl⟩
        exact ⟨front, hfront, _, ⟨lists, hlists, rfl⟩, rfl⟩
      · rintro ⟨front, hfront, _, ⟨lists, hlists, rfl⟩, rfl⟩
        exact ⟨_, ⟨front, hfront, lists, hlists, rfl⟩, rfl⟩
    simp only [hmapM, ih]
    by_cases hs : s.id = id
    · simp only [enumerated_cons_of_eq hid hs, entriesOf, if_pos hs, Option.map_eq_some_iff,
        (Scan.reads_vector h).all?_eq_some]
      constructor
      · rintro ⟨_, ⟨front, hfront, rfl⟩, _, ⟨back, hback, rfl⟩, rfl⟩
        exact ⟨_, ⟨front, back, hfront, hback, rfl⟩, List.map_append⟩
      · rintro ⟨_, ⟨front, back, hfront, hback, rfl⟩, rfl⟩
        exact ⟨_, ⟨front, hfront, rfl⟩, _, ⟨back, hback, rfl⟩, List.map_append.symm⟩
    · simp only [enumerated_cons_of_ne hid hs, entriesOf, if_neg hs, Option.some.injEq,
        exists_eq_left', List.nil_append, exists_eq_right]

end

theorem importsOf_eq : importsOf = entriesOf 2 Wasm.Import.scan .ofImport := rfl

theorem exportsOf_eq : exportsOf = entriesOf 7 Wasm.Export.scan .ofExport := rfl

/-! ## Summaries -/

/-- **What a summary holds.** A file has one if and only if it is well framed and its import and
export sections list entries. -/
theorem ofModule_eq_ok {bytes : Bytes} {s : Summary} :
    ofModule bytes = .ok s ↔ ∃ chunks imports exports, WellFramed chunks bytes ∧
      Enumerated 2 Wasm.Import.Spelled chunks imports ∧
      Enumerated 7 Wasm.Export.Spelled chunks exports ∧
      s = ⟨Interface.ofModule bytes, imports.map .ofImport, exports.map .ofExport⟩ := by
  constructor
  · intro h
    unfold ofModule at h
    split at h
    · cases h
    · next sections hsections =>
      split at h
      · next imports exports himports hexports =>
        cases h
        rw [importsOf_eq] at himports
        rw [exportsOf_eq] at hexports
        obtain ⟨is, his, himports⟩ :=
          (mapM_entriesOf (by decide) Wasm.reads_import).1 ⟨imports, himports, rfl⟩
        obtain ⟨es, hes, hexports⟩ :=
          (mapM_entriesOf (by decide) Wasm.reads_export).1 ⟨exports, hexports, rfl⟩
        rw [← himports, ← hexports]
        exact ⟨_, is, es, Wasm.wellFramed_iff.2 ⟨sections, hsections, rfl⟩, his, hes, rfl⟩
      · cases h
  · rintro ⟨chunks, is, es, hchunks, his, hes, rfl⟩
    obtain ⟨sections, hsections, rfl⟩ := Wasm.wellFramed_iff.1 hchunks
    obtain ⟨imports, himports, his⟩ :=
      (mapM_entriesOf (f := .ofImport) (by decide) Wasm.reads_import).2 ⟨is, his, rfl⟩
    obtain ⟨exports, hexports, hes⟩ :=
      (mapM_entriesOf (f := .ofExport) (by decide) Wasm.reads_export).2 ⟨es, hes, rfl⟩
    rw [← importsOf_eq] at himports
    rw [← exportsOf_eq] at hexports
    rw [ofModule, hsections]
    simp only [himports, hexports, his, hes]

theorem ofModule_of_notWasm {bytes : Bytes} (h : Interface.ofModule bytes = .error .notWasm) :
    ofModule bytes = .error .notWasm := by
  have hchunks := Interface.ofModule_eq_notWasm.1 h
  unfold ofModule
  split
  · rfl
  · next sections hsections =>
    exact absurd ⟨_, Wasm.wellFramed_iff.2 ⟨sections, hsections, rfl⟩⟩ hchunks

/-- **Summaries and the metadata reader agree.** A file that has no interface for its framing has no
summary either. A file has a summary if and only if it is well framed and its import and export
sections list entries; the summary has its interface and all of the entries in their order. It shows
the interface, or why there is none, which is never the framing. -/
theorem agrees :
    (∀ bytes : Bytes, Interface.ofModule bytes = .error .notWasm →
      ofModule bytes = .error .notWasm) ∧
    (∀ (bytes : Bytes) (s : Summary), ofModule bytes = .ok s ↔
      ∃ chunks imports exports, WellFramed chunks bytes ∧
        Enumerated 2 Wasm.Import.Spelled chunks imports ∧
        Enumerated 7 Wasm.Export.Spelled chunks exports ∧
        s = ⟨Interface.ofModule bytes, imports.map .ofImport, exports.map .ofExport⟩) ∧
    ∀ (bytes : Bytes) (s : Summary), ofModule bytes = .ok s →
      (∀ i, Interface.ofModule bytes = .ok i →
        s.toJson.get? "interface" = some i.toJson ∧ s.toJson.get? "interface_error" = none) ∧
      ∀ e, Interface.ofModule bytes = .error e → e ≠ .notWasm ∧
        s.toJson.get? "interface" = some .null ∧
        s.toJson.get? "interface_error" = some (.string e.plainMessage) := by
  refine ⟨fun bytes => ofModule_of_notWasm, fun bytes s => ofModule_eq_ok, fun bytes s h => ?_⟩
  have hframing : Interface.ofModule bytes ≠ .error .notWasm := fun hframing => by
    rw [ofModule_of_notWasm hframing] at h
    cases h
  obtain ⟨_, imports, exports, -, -, -, rfl⟩ := ofModule_eq_ok.1 h
  have hkeys : compare "interface_error" "interface" = .gt ∧
      compare "interface_error" "imports" = .gt ∧ compare "interface_error" "exports" = .gt := by
    decide
  refine ⟨fun i hi => ?_, fun e he => ⟨fun hcause => hframing (hcause ▸ he), ?_⟩⟩
  · rw [hi]
    simp [toJson, Json.get?, Fields.get?, hkeys]
  · rw [he]
    simp [toJson, Json.get?, Fields.get?, hkeys]

/-- Metadata between two import sections, and an export section. -/
def scattered : List Section :=
  [⟨2, [1, 1, 0x6D, 1, 0x66, 0, 0]⟩, Interface.metadataSection [0x7B, 0x7D],
   ⟨7, [1, 1, 0x67, 0, 0]⟩, ⟨2, [1, 1, 0x6D, 1, 0x6D, 2, 0, 1]⟩]

/-- A component without sections. -/
def blankComponent : Bytes := [0x00, 0x61, 0x73, 0x6D, 13, 0, 1, 0]

theorem agrees_scattered :
    (Interface.ofModule [] = .error .notWasm ∧ ofModule [] = .error .notWasm) ∧
    (Interface.ofModule (Interface.shortFile scattered) = .ok {} ∧
      ∃ s, ofModule (Interface.shortFile scattered) = .ok s ∧
        s.imports = [⟨some "m", "f", .func⟩, ⟨some "m", "m", .memory⟩] ∧
        s.exports = [⟨none, "g", .func⟩] ∧
        s.toJson.get? "interface" = some (Interface.toJson {}) ∧
        s.toJson.get? "interface_error" = none) ∧
    Interface.ofModule (blankComponent) = .error .missing ∧
      ∃ s, ofModule (blankComponent) = .ok s ∧
        InterfaceError.missing ≠ .notWasm ∧ s.toJson.get? "interface" = some .null ∧
        s.toJson.get? "interface_error" = some (.string InterfaceError.missing.plainMessage) := by
  have hframing : Interface.ofModule [] = .error .notWasm := by decide +kernel
  have hread : Interface.ofModule (Interface.shortFile scattered) = .ok {} := by decide +kernel
  have hmissing : Interface.ofModule (blankComponent) = .error .missing := by
    decide +kernel
  have hsections : Wasm.sections? (Interface.shortFile scattered) = some scattered := by
    decide +kernel
  have himports : scattered.mapM importsOf =
      some [[⟨some "m", "f", .func⟩], [], [], [⟨some "m", "m", .memory⟩]] := by decide +kernel
  have hexports : scattered.mapM exportsOf = some [[], [], [⟨none, "g", .func⟩], []] := by
    decide +kernel
  have hlisted : ofModule (Interface.shortFile scattered) = .ok
      ⟨Interface.ofModule (Interface.shortFile scattered),
        [⟨some "m", "f", .func⟩, ⟨some "m", "m", .memory⟩], [⟨none, "g", .func⟩]⟩ := by
    rw [ofModule, hsections]
    simp only [himports, hexports]
    rfl
  have hempty : ofModule (blankComponent) =
      .ok ⟨Interface.ofModule (blankComponent), [], []⟩ := rfl
  exact ⟨⟨hframing, agrees.1 [] hframing⟩,
    ⟨hread, _, hlisted, rfl, rfl, (agrees.2.2 _ _ hlisted).1 _ hread⟩,
    hmissing, _, hempty, (agrees.2.2 _ _ hempty).2 _ hmissing⟩

end Summary

end ModuleHost
