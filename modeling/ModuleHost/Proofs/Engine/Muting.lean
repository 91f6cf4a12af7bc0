import Mathlib.Data.List.Forall2
import ModuleHost.Engine.Control
import ModuleHost.Proofs.Engine.Logging
import ModuleHost.Proofs.Wasm.Mirror

/-!
# Services under other log settings

A service whose loggers let less pass does the same as one whose loggers let everything pass, as
long as every log call can be read.

* `Exchange.Readable`, `Legible` — the ranges of a log call could be read; those of all log calls
  could, and the sink took the records;
* `Logger.Mutes`, `Muted` — a logger that may let less pass; the data of a service with such
  loggers;
* `Mirrors` — two computations do the same over such data;
* **`mirrors_log`**: a log call does the same.
-/

namespace ModuleHost

open Wasm (Word Store Run Instance Extern Regime Module)

/-! ## Data -/

/-- The ranges of a log call could be read. -/
def Exchange.Readable : Exchange → Prop
  | .log _ _ memory _ target targetLength message messageLength => ∃ m, memory = some m ∧
    ¬ Unreadable m target targetLength ∧ ¬ Unreadable m message messageLength
  | .parameters _ | .sibling .. | .allocated .. | .freed .. => True

instance (m : Wasm.Memory) (pointer length : Word) : Decidable (Unreadable m pointer length) :=
  inferInstanceAs (Decidable (_ ∨ _ ∧ _))

instance : DecidablePred Exchange.Readable
  | .log _ _ none .. => isFalse (by rintro ⟨_, h, -⟩; cases h)
  | .log _ _ (some m) _ target targetLength message messageLength =>
    decidable_of_iff
      (¬ Unreadable m target targetLength ∧ ¬ Unreadable m message messageLength)
      ⟨fun h => ⟨m, rfl, h⟩, by rintro ⟨_, h, readable⟩; cases h; exact readable⟩
  | .parameters _ | .sibling .. | .allocated .. | .freed .. => isTrue trivial

/-- Every log call of an operation could be read, and the sink takes what it says. -/
structure Legible (d : ServiceData) : Prop where
  readable : ∀ x ∈ d.exchanges, x.Readable
  taken : ∀ e ∈ said d.serviceId d.exchanges, d.sink.breaksOn e.2 = false

instance (d : ServiceData) : Decidable (Legible d) :=
  decidable_of_iff ((∀ x ∈ d.exchanges, x.Readable) ∧
      ∀ e ∈ said d.serviceId d.exchanges, d.sink.breaksOn e.2 = false)
    ⟨fun h => ⟨h.1, h.2⟩, fun h => ⟨h.readable, h.taken⟩⟩

/-- A logger that may let less pass than one that lets everything pass; both log for the service
`id`. -/
structure Logger.Mutes (id : String) (g' g : Logger) : Prop where
  service : g.service = id
  service' : g'.service = id
  everything : ∀ level, g.admits level = true

/-- The levels that loggers let pass. -/
def admitted (gs : List Logger) (position : Nat) (level : LogLevel) : Bool :=
  gs[position]?.any (·.admits level)

/-- The data `d'` of a service are `d` but for the settings of its loggers. -/
structure Muted (id : String) (d d' : ServiceData) : Prop where
  owner : d.serviceId = id
  same : d' = { d with loggers := d'.loggers, records := d'.records }
  loggers : List.Forall₂ (Logger.Mutes id) d'.loggers d.loggers
  /-- The modules that have logged have their loggers. -/
  present : ∀ e ∈ said id d.exchanges, e.1 < d.loggers.length
  full : d.records = (said id d.exchanges).map (·.2)
  passed : d'.records = passed (admitted d'.loggers) (said id d.exchanges)

namespace Muted

variable {id : String} {d d' : ServiceData}

/-- An exchange without a record is entered. -/
theorem note (h : Muted id d d') {x : Exchange} (hx : x.said? id = none) :
    Muted id { d with exchanges := d.exchanges ++ [x] }
      { d' with exchanges := d'.exchanges ++ [x] } where
  owner := h.owner
  same := by
    rw [h.same]
  loggers := h.loggers
  present := by
    rw [said_append, said_of_none hx, List.append_nil]
    exact h.present
  full := by
    rw [said_append, said_of_none hx, List.append_nil]
    exact h.full
  passed := by
    rw [said_append, said_of_none hx, List.append_nil]
    exact h.passed

/-- Loggers do not matter to records before them. -/
theorem addLogger (h : Muted id d d') {g g' : Logger} (mutes : g'.Mutes id g) :
    Muted id { d with loggers := d.loggers ++ [g] } { d' with loggers := d'.loggers ++ [g'] } where
  owner := h.owner
  same := by
    rw [h.same]
  loggers := List.rel_append h.loggers (.cons mutes .nil)
  present e he := by
    rw [List.length_append]
    exact Nat.lt_add_right _ (h.present e he)
  full := h.full
  passed := by
    refine h.passed.trans (congrArg (List.map _) (List.filter_congr fun e he => ?_))
    have hlt : e.1 < d'.loggers.length := h.loggers.length_eq ▸ h.present e he
    rw [admitted, admitted, List.getElem?_append_left hlt]

/-- A log call is entered, with what the loggers let pass. -/
theorem log (h : Muted id d d') {x : Exchange}
    (present : ∀ e ∈ said id [x], e.1 < d.loggers.length) :
    Muted id
      { d with
        exchanges := d.exchanges ++ [x]
        records := d.records ++ (said id [x]).map (·.2) }
      { d' with
        exchanges := d'.exchanges ++ [x]
        records := d'.records ++ ModuleHost.passed (admitted d'.loggers) (said id [x]) } where
  owner := h.owner
  same := by
    rw [h.same]
  loggers := h.loggers
  present e he := by
    rw [said_append] at he
    exact (List.mem_append.1 he).elim (h.present e) (present e)
  full := by
    rw [said_append, List.map_append, h.full]
  passed := by
    rw [said_append, passed_append, h.passed]

/-- What was noted while an operation ran is set aside. -/
theorem settle (h : Muted id d d') :
    Muted id { d with records := [], exchanges := [] }
      { d' with records := [], exchanges := [] } where
  owner := h.owner
  same := by
    rw [h.same]
  loggers := h.loggers
  present e he := nomatch he
  full := rfl
  passed := rfl

/-- The loggers at a position. -/
theorem logger? (h : Muted id d d') {position : Nat} {g : Logger}
    (hg : d.loggers[position]? = some g) :
    ∃ g', d'.loggers[position]? = some g' ∧ g'.Mutes id g := by
  have hlt := (List.getElem?_eq_some_iff.1 hg).1
  have hlt' : position < d'.loggers.length := h.loggers.length_eq ▸ hlt
  refine ⟨_, List.getElem?_eq_getElem hlt', ?_⟩
  have := h.loggers.get hlt' hlt
  rwa [List.get_eq_getElem, List.get_eq_getElem,
    Option.some.inj ((List.getElem?_eq_getElem hlt).symm.trans hg)] at this

end Muted

/-- Two computations do the same, the one where everything is logged and the other where less is. -/
abbrev Mirrors (id : String) {α : Type} (x y : Guest α) : Prop :=
  Run.Mirrors Legible (Muted id) x y

/-! ## Log calls -/

theorem Legible.before {s : Store guests} {x : Exchange} (h : Legible (noted x s).data) :
    Legible s.data where
  readable y hy := h.readable y (List.mem_append_left _ hy)
  taken e he := h.taken e (by
    show e ∈ said s.data.serviceId (s.data.exchanges ++ [x])
    rw [said_append]
    exact List.mem_append_left _ he)

theorem Legible.last {s : Store guests} {x : Exchange} (h : Legible (noted x s).data) :
    x.Readable ∧ ∀ e ∈ said s.data.serviceId [x], s.data.sink.breaksOn e.2 = false := by
  refine ⟨h.readable x (List.mem_append_right _ (List.mem_singleton_self x)), fun e he => ?_⟩
  refine h.taken e ?_
  show e ∈ said s.data.serviceId (s.data.exchanges ++ [x])
  rw [said_append]
  exact List.mem_append_right _ he

theorem mem_map_of_passed {admits : Nat → LogLevel → Bool} {es : List (Nat × LogRecord)}
    {r : LogRecord} (h : r ∈ passed admits es) : r ∈ es.map (·.2) := by
  obtain ⟨e, he, rfl⟩ := List.mem_map.1 h
  exact List.mem_map_of_mem (List.mem_filter.1 he).1

section

variable {id : String} {g g' : Logger} {m : Wasm.Memory}
  {level target targetLength message messageLength : Word}

/-- Of a log call that can be read, the first logger passes on everything, the second what its
levels let pass. -/
theorem Logger.Mutes.logged (mutes : g'.Mutes id g) (position : Nat) (caller : Option Nat)
    (level : Word) (htarget : ¬ Unreadable m target targetLength)
    (hmessage : ¬ Unreadable m message messageLength) {admits : Nat → LogLevel → Bool}
    (hadmits : admits position = g'.admits) :
    let x := Exchange.log position caller (some m) level target targetLength message messageLength
    ∃ record record',
      g.logged (some m) level target targetLength message messageLength = .ok record ∧
      g'.logged (some m) level target targetLength message messageLength = .ok record' ∧
      (said id [x]).map (·.2) = record.toList ∧ passed admits (said id [x]) = record'.toList := by
  obtain ⟨record, hrecord⟩ := logged_of_readable g htarget hmessage
  obtain ⟨record', hrecord'⟩ := logged_of_readable g' htarget hmessage
  refine ⟨record, record', hrecord, hrecord', ?_, ?_⟩
  · rw [← @passed_of_all (fun _ => g.admits) (fun _ => mutes.everything), ← mutes.service,
      passed_log g rfl, hrecord]
    rfl
  · rw [← mutes.service', passed_log g' hadmits, hrecord']
    rfl

/-- A log call is noted whatever comes of it. -/
theorem legible_of_log {s : Store guests} {position : Nat} (hg : s.data.loggers[position]? = some g)
    (call : GuestCall) (caller : Option Nat)
    (h : Legible (hostFunctions (.log position) call caller
      [level, target, targetLength, message, messageLength] s).store.data) :
    Legible (noted (.log position caller (snapshot s caller) level target targetLength message
      messageLength) s).data := by
  rw [log_apply hg, Run.bind_apply] at h
  cases hlogged : g.logged (snapshot s caller) level target targetLength message messageLength with
  | error fault =>
    rw [hlogged] at h
    exact h
  | ok record =>
    rw [hlogged, emit_ok] at h
    split at h
    · next hend =>
      split at hend
      · cases hend
      · cases hend
        exact ⟨h.readable, h.taken⟩
    · next hend =>
      split at hend
      · cases hend
        exact h
      · cases hend

/-- **A log call does the same where less is logged.** -/
theorem mirrors_log (call : GuestCall) (position : Nat) (caller : Option Nat) :
    Mirrors id
      (hostFunctions (.log position) call caller
        [level, target, targetLength, message, messageLength])
      (hostFunctions (.log position) call caller
        [level, target, targetLength, message, messageLength]) := by
  intro s legible
  cases hg : s.data.loggers[position]? with
  | none =>
    rw [log_of_missing hg] at legible ⊢
    refine ⟨legible, fun d muted => ⟨d, muted, log_of_missing ?_ call⟩⟩
    have hle := List.getElem?_eq_none_iff.1 hg
    exact List.getElem?_eq_none (muted.loggers.length_eq ▸ hle)
  | some g =>
    have noted := legible_of_log hg call caller legible
    refine ⟨noted.before, fun d muted => ?_⟩
    obtain ⟨⟨m, hm, htarget, hmessage⟩, htaken⟩ := noted.last
    obtain ⟨g', hg', mutes⟩ := muted.logger? hg
    have hadmits : admitted d.loggers position = g'.admits := by
      funext level
      rw [admitted, hg']
      rfl
    obtain ⟨record, record', hlogged, hlogged', full, less⟩ :=
      mutes.logged position caller level htarget hmessage hadmits
    rw [hm, muted.owner] at htaken
    have taken : ∀ r ∈ record.toList, s.data.sink.breaksOn r = false := by
      rw [← full]
      intro r hr
      obtain ⟨e, he, rfl⟩ := List.mem_map.1 hr
      exact htaken e he
    have untaken : ¬ record.any s.data.sink.breaksOn := by
      intro breaks
      obtain ⟨r, hr, hbreaks⟩ := (Option.any_eq_true _ _).1 breaks
      rw [taken r (Option.mem_toList.2 hr)] at hbreaks
      cases hbreaks
    have untaken' : ¬ record'.any d.sink.breaksOn := by
      -- what the second logger passes on, the first does
      intro breaks
      obtain ⟨r, hr, hbreaks⟩ := (Option.any_eq_true _ _).1 breaks
      have hmem : r ∈ record.toList := full ▸ mem_map_of_passed (less ▸ Option.mem_toList.2 hr)
      rw [muted.same] at hbreaks
      exact absurd ((taken r hmem).symm.trans hbreaks) Bool.false_ne_true
    have present : ∀ e ∈ said id [.log position caller (some m) level target targetLength message
        messageLength], e.1 < s.data.loggers.length := by
      intro e he
      rw [said_log] at he
      obtain ⟨text, -, rfl⟩ := Option.map_eq_some_iff.1 (Option.mem_toList.1 he)
      exact (List.getElem?_eq_some_iff.1 hg).1
    have entered := muted.log present
    rw [full, less] at entered
    rw [log_of_taken hg call (hm ▸ hlogged) untaken, hm]
    refine ⟨_, entered, ?_⟩
    have hsnapshot : snapshot (s.withData d) caller = some m := hm
    rw [log_of_taken (show (s.withData d).data.loggers[position]? = some g' from hg') call
      (hsnapshot ▸ hlogged') untaken', hsnapshot]
    rfl

end

end ModuleHost
