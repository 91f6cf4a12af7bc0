import Mathlib.Data.List.Forall2
import ModuleHost.Proofs.Log.Grammar

/-!
# What a filter text means

Directives are read from left to right: of two bounds for one module the later stays, of two
bounds for the others the earlier.

* `LogFilter.Cut`, `pieces_eq_iff` — the pieces of a text;
* `LogFilter.Bound` — the bound that pieces give a module;
* `LogFilter.Skipped`, `LogFilter.Warns` — the pieces that are passed over, and their warnings;
* `LogFilter.extend` — a filter with the directives of another behind its own;
* **`LogFilter.means`**: the filter of a text bounds each module as its pieces say, warns of each
  piece that is passed over, and is extended by the directives of a text behind a comma.
-/

namespace ModuleHost.LogFilter

open Directive (Reads Faulty)

/-! ## Readings -/

/-- `ps` are the pieces of `text` between commas, without the white space around them, that are
not blank. -/
def Cut (text : List Char) (ps : List (List Char)) : Prop :=
  ∃ raws words, Text.Cuts ',' text raws ∧ List.Forall₂ Text.Trims raws words ∧
    ps = words.filter (· ≠ [])

/-- The bound that pieces give the module `m`. -/
inductive Bound (ps : List (List Char)) (m : String) : Option Threshold → Prop where
  /-- It is that of the last piece that names the module. -/
  | own {before after : List (List Char)} {piece : List Char} {t : Threshold}
    (h : ps = before ++ piece :: after) (reads : Reads piece (.oneModule m t))
    (last : ∀ later ∈ after, ∀ u, ¬Reads later (.oneModule m u)) : Bound ps m (some t)
  /-- Without such a piece it is that of the first piece for every module. -/
  | others {before after : List (List Char)} {piece : List Char} {t : Threshold}
    (unnamed : ∀ piece ∈ ps, ∀ u, ¬Reads piece (.oneModule m u))
    (h : ps = before ++ piece :: after) (reads : Reads piece (.everyModule t))
    (first : ∀ earlier ∈ before, ∀ u, ¬Reads earlier (.everyModule u)) : Bound ps m (some t)
  | unbounded (unnamed : ∀ piece ∈ ps, ∀ u, ¬Reads piece (.oneModule m u))
    (silent : ∀ piece ∈ ps, ∀ u, ¬Reads piece (.everyModule u)) : Bound ps m none

/-- Why a piece behind the pieces `before` is passed over. -/
inductive Skipped (before : List (List Char)) (piece : List Char) : DirectiveFault → Prop where
  | faulty {fault : DirectiveFault} (h : Faulty piece fault) : Skipped before piece fault
  | secondDefault {earlier : List Char} {t u : Threshold} (reads : Reads piece (.everyModule t))
    (hearlier : earlier ∈ before) (first : Reads earlier (.everyModule u)) :
    Skipped before piece .secondDefault

/-- The warnings about pieces behind the pieces `before`: one for each that is passed over. -/
inductive Warns : List (List Char) → List (List Char) → List FilterWarning → Prop where
  | nil {before : List (List Char)} : Warns before [] []
  | taken {before ps : List (List Char)} {piece : List Char} {ws : List FilterWarning}
    (h : ∀ fault, ¬Skipped before piece fault) (rest : Warns (before ++ [piece]) ps ws) :
    Warns before (piece :: ps) ws
  | skipped {before ps : List (List Char)} {piece : List Char} {ws : List FilterWarning}
    {fault : DirectiveFault} (h : Skipped before piece fault)
    (rest : Warns (before ++ [piece]) ps ws) :
    Warns before (piece :: ps) (⟨fault, String.ofList piece⟩ :: ws)

/-- The filter `f` with the directives of `g` behind its own. -/
def extend (f g : LogFilter) : LogFilter := ⟨f.others.or g.others, f.modules.merge g.modules⟩

/-! ## Pieces -/

theorem map_trim_eq_iff {raws words : List (List Char)} :
    raws.map Text.trim = words ↔ List.Forall₂ Text.Trims raws words := by
  rw [← List.forall₂_eq_eq_eq, List.forall₂_map_left_iff]
  simp only [Text.trim_eq_iff]

theorem pieces_eq_iff {s : String} {ps : List (List Char)} :
    pieces s = ps ↔ Cut s.toList ps := by
  have hpieces : pieces s = ((Text.splitAt ',' s.toList).map Text.trim).filter (· ≠ []) := by
    rw [pieces]
    congr
    funext word
    cases word <;> rfl
  rw [hpieces]
  constructor
  · intro h
    exact ⟨_, _, Text.splitAt_eq_iff.1 rfl, map_trim_eq_iff.1 rfl, h.symm⟩
  · rintro ⟨raws, words, cuts, trims, rfl⟩
    rw [Text.splitAt_eq_iff.2 cuts, map_trim_eq_iff.2 trims]

theorem pieces_append (s s' : String) : pieces (s ++ "," ++ s') = pieces s ++ pieces s' := by
  have htext : (s ++ "," ++ s').toList = s.toList ++ ',' :: s'.toList := by simp
  simp only [pieces, htext, Text.splitAt_append_cons, List.map_append, List.filter_append]

/-! ## Bounds -/

/-- The bound for every module in a piece. -/
def everyModule? (piece : List Char) : Option Threshold :=
  match Directive.parse piece with
  | .ok (.everyModule t) => some t
  | _ => none

/-- The bound for the module `m` in a piece. -/
def oneModule? (m : String) (piece : List Char) : Option Threshold :=
  match Directive.parse piece with
  | .ok (.oneModule name t) => if m = name then some t else none
  | _ => none

section

variable {piece : List Char} {m : String} {t : Threshold} {st : LogFilter × List FilterWarning}

theorem everyModule?_eq_some : everyModule? piece = some t ↔ Reads piece (.everyModule t) := by
  rw [← Directive.parse_eq_ok, everyModule?]
  cases Directive.parse piece with
  | error fault => simp
  | ok d => cases d <;> simp

theorem oneModule?_eq_some : oneModule? m piece = some t ↔ Reads piece (.oneModule m t) := by
  rw [← Directive.parse_eq_ok, oneModule?]
  cases Directive.parse piece with
  | error fault => simp
  | ok d => cases d <;> simp [eq_comm]

theorem everyModule?_eq_none : everyModule? piece = none ↔ ∀ u, ¬Reads piece (.everyModule u) := by
  rw [Option.eq_none_iff_forall_ne_some]
  exact forall_congr' fun u => not_congr everyModule?_eq_some

theorem oneModule?_eq_none : oneModule? m piece = none ↔ ∀ u, ¬Reads piece (.oneModule m u) := by
  rw [Option.eq_none_iff_forall_ne_some]
  exact forall_congr' fun u => not_congr oneModule?_eq_some

theorem others_addPiece (st : LogFilter × List FilterWarning) (piece : List Char) :
    (addPiece st piece).1.others = st.1.others.or (everyModule? piece) := by
  unfold addPiece everyModule?
  cases Directive.parse piece with
  | error fault => simp [bind, Except.bind]
  | ok d =>
    cases d with
    | oneModule name t => simp [bind, Except.bind, apply]
    | everyModule t => cases hothers : st.1.others <;> simp [bind, Except.bind, apply, hothers]

theorem get?_addPiece (st : LogFilter × List FilterWarning) (piece : List Char) (m : String) :
    (addPiece st piece).1.modules.get? m = (oneModule? m piece).or (st.1.modules.get? m) := by
  unfold addPiece oneModule?
  cases Directive.parse piece with
  | error fault => simp [bind, Except.bind]
  | ok d =>
    cases d with
    | everyModule t => cases hothers : st.1.others <;> simp [bind, Except.bind, apply, hothers]
    | oneModule name t =>
      by_cases hname : m = name
      · simp [bind, Except.bind, apply, Dict.get?_insert, hname]
      · simp [bind, Except.bind, apply, Dict.get?_insert, hname]

theorem others_foldl (ps : List (List Char)) (st : LogFilter × List FilterWarning) :
    (ps.foldl addPiece st).1.others = st.1.others.or (ps.findSome? everyModule?) := by
  induction ps generalizing st with
  | nil => simp
  | cons piece ps ih =>
    rw [List.foldl_cons, ih, others_addPiece, Option.or_assoc, List.findSome?_cons]
    cases everyModule? piece <;> rfl

theorem get?_foldl (ps : List (List Char)) (st : LogFilter × List FilterWarning) (m : String) :
    (ps.foldl addPiece st).1.modules.get? m =
      (ps.reverse.findSome? (oneModule? m)).or (st.1.modules.get? m) := by
  induction ps generalizing st with
  | nil => rfl
  | cons piece ps ih =>
    rw [List.foldl_cons, ih, get?_addPiece, List.reverse_cons, List.findSome?_append,
      Option.or_assoc]
    simp

theorem parse_others (s : String) : (parse s).others = (pieces s).findSome? everyModule? := by
  rw [parse, parseWarned, others_foldl]
  rfl

theorem get?_parse (s : String) (m : String) :
    (parse s).modules.get? m = (pieces s).reverse.findSome? (oneModule? m) := by
  rw [parse, parseWarned, get?_foldl]
  exact Option.or_none

/-- The bound of a module is the last that pieces give it, else the first that they give every
module. -/
theorem bound?_parse (s : String) (m : String) :
    (parse s).bound? m =
      ((pieces s).reverse.findSome? (oneModule? m)).or ((pieces s).findSome? everyModule?) := by
  rw [bound?, get?_parse, parse_others]

theorem bound_findSome? (ps : List (List Char)) (m : String) :
    Bound ps m ((ps.reverse.findSome? (oneModule? m)).or (ps.findSome? everyModule?)) := by
  cases hown : ps.reverse.findSome? (oneModule? m) with
  | some t =>
    obtain ⟨after, piece, before, hps, hreads, hlast⟩ := List.findSome?_eq_some_iff.1 hown
    have hps : ps = before.reverse ++ piece :: after.reverse := by
      rw [← List.reverse_reverse ps, hps]
      simp
    exact .own hps (oneModule?_eq_some.1 hreads) fun later hlater =>
      oneModule?_eq_none.1 (hlast later (List.mem_reverse.1 hlater))
  | none =>
    have unnamed : ∀ piece ∈ ps, ∀ u, ¬Reads piece (.oneModule m u) := fun piece hpiece =>
      oneModule?_eq_none.1 (List.findSome?_eq_none_iff.1 hown piece (List.mem_reverse.2 hpiece))
    cases hothers : ps.findSome? everyModule? with
    | some t =>
      obtain ⟨before, piece, after, hps, hreads, hfirst⟩ := List.findSome?_eq_some_iff.1 hothers
      exact .others unnamed hps (everyModule?_eq_some.1 hreads) fun earlier hearlier =>
        everyModule?_eq_none.1 (hfirst earlier hearlier)
    | none =>
      exact .unbounded unnamed fun piece hpiece =>
        everyModule?_eq_none.1 (List.findSome?_eq_none_iff.1 hothers piece hpiece)

theorem findSome?_oneModule? {ps : List (List Char)}
    (unnamed : ∀ piece ∈ ps, ∀ u, ¬Reads piece (.oneModule m u)) :
    ps.reverse.findSome? (oneModule? m) = none :=
  List.findSome?_eq_none_iff.2 fun piece hpiece =>
    oneModule?_eq_none.2 (unnamed piece (List.mem_reverse.1 hpiece))

theorem Bound.eq_findSome? {ps : List (List Char)} {b : Option Threshold} (h : Bound ps m b) :
    (ps.reverse.findSome? (oneModule? m)).or (ps.findSome? everyModule?) = b := by
  cases h with
  | @own before after piece t h reads last =>
    have hown : ps.reverse.findSome? (oneModule? m) = some t := by
      refine List.findSome?_eq_some_iff.2 ⟨after.reverse, piece, before.reverse, by simp [h],
        oneModule?_eq_some.2 reads, fun later hlater => ?_⟩
      exact oneModule?_eq_none.2 (last later (List.mem_reverse.1 hlater))
    rw [hown]
    rfl
  | @others before after piece t unnamed h reads first =>
    rw [findSome?_oneModule? unnamed, Option.none_or]
    exact List.findSome?_eq_some_iff.2 ⟨before, piece, after, h, everyModule?_eq_some.2 reads,
      fun earlier hearlier => everyModule?_eq_none.2 (first earlier hearlier)⟩
  | unbounded unnamed silent =>
    rw [findSome?_oneModule? unnamed, Option.none_or]
    exact List.findSome?_eq_none_iff.2 fun piece hpiece =>
      everyModule?_eq_none.2 (silent piece hpiece)

theorem bound?_parse_eq_iff {s : String} {b : Option Threshold} :
    (parse s).bound? m = b ↔ Bound (pieces s) m b := by
  rw [bound?_parse]
  exact ⟨fun h => h ▸ bound_findSome? (pieces s) m, Bound.eq_findSome?⟩

/-! ## Warnings -/

/-- The filter has a bound for the others if one of the pieces `before` has. -/
def Opened (before : List (List Char)) (f : LogFilter) : Prop :=
  f.others.isSome ↔ ∃ earlier ∈ before, ∃ u, Reads earlier (.everyModule u)

theorem Opened.addPiece {before : List (List Char)} (h : Opened before st.1) (piece : List Char) :
    Opened (before ++ [piece]) (addPiece st piece).1 := by
  rw [Opened] at h ⊢
  rw [others_addPiece, Option.isSome_or, Bool.or_eq_true, h, Option.isSome_iff_exists]
  simp only [everyModule?_eq_some, List.mem_append, List.mem_singleton, or_and_right, exists_or,
    exists_eq_left]

theorem addPiece_skipped {before : List (List Char)} (hopened : Opened before st.1)
    {fault : DirectiveFault} (h : Skipped before piece fault) :
    addPiece st piece = (st.1, st.2 ++ [⟨fault, String.ofList piece⟩]) := by
  cases h with
  | faulty h =>
    rw [LogFilter.addPiece, Directive.parse_of_faulty h]
    rfl
  | secondDefault reads hearlier first =>
    have hsome : st.1.others.isSome := hopened.2 ⟨_, hearlier, _, first⟩
    rw [LogFilter.addPiece, Directive.parse_of_reads reads]
    simp [bind, Except.bind, apply, Option.isSome_iff_ne_none.1 hsome]

theorem addPiece_taken {before : List (List Char)} (hopened : Opened before st.1)
    (h : ∀ fault, ¬Skipped before piece fault) : (addPiece st piece).2 = st.2 := by
  rcases Directive.reads_or_faulty piece with ⟨d, reads⟩ | ⟨fault, faulty⟩
  · rw [LogFilter.addPiece, Directive.parse_of_reads reads]
    cases d with
    | oneModule name t => rfl
    | everyModule t =>
      have hnone : st.1.others = none := by
        by_contra hsome
        obtain ⟨earlier, hearlier, u, first⟩ := hopened.1 (Option.isSome_iff_ne_none.2 hsome)
        exact h _ (.secondDefault reads hearlier first)
      simp [bind, Except.bind, apply, hnone]
  · exact absurd (.faulty faulty) (h fault)

/-- **Each piece that is passed over has its warning.** -/
theorem foldl_warns {before : List (List Char)} (ps : List (List Char))
    (hopened : Opened before st.1) :
    ∃ ws, (ps.foldl addPiece st).2 = st.2 ++ ws ∧ Warns before ps ws := by
  induction ps generalizing before st with
  | nil => exact ⟨[], by simp, .nil⟩
  | cons piece ps ih =>
    obtain ⟨ws, hws, hrest⟩ := ih (hopened.addPiece piece)
    by_cases hskipped : ∃ fault, Skipped before piece fault
    · obtain ⟨fault, hskipped⟩ := hskipped
      refine ⟨_, ?_, .skipped hskipped hrest⟩
      rw [List.foldl_cons, hws, addPiece_skipped hopened hskipped]
      simp
    · have htaken : ∀ fault, ¬Skipped before piece fault := by simpa using hskipped
      refine ⟨ws, ?_, .taken htaken hrest⟩
      rw [List.foldl_cons, hws, addPiece_taken hopened htaken]

/-- A piece is passed over for one reason. -/
theorem Skipped.unique {before : List (List Char)} {fault fault' : DirectiveFault}
    (h : Skipped before piece fault) (h' : Skipped before piece fault') : fault = fault' := by
  cases h with
  | faulty h =>
    cases h' with
    | faulty h' => simpa [Directive.parse_of_faulty h] using Directive.parse_of_faulty h'
    | secondDefault reads' =>
      simpa [Directive.parse_of_faulty h] using Directive.parse_of_reads reads'
  | secondDefault reads =>
    cases h' with
    | faulty h' => simpa [Directive.parse_of_faulty h'] using Directive.parse_of_reads reads
    | secondDefault => rfl

theorem Warns.unique {before ps : List (List Char)} {ws ws' : List FilterWarning}
    (h : Warns before ps ws) (h' : Warns before ps ws') : ws = ws' := by
  induction h generalizing ws' with
  | nil =>
    cases h'
    rfl
  | taken h rest ih =>
    cases h' with
    | taken h' rest' => exact ih rest'
    | skipped h' rest' => exact absurd h' (h _)
  | skipped h rest ih =>
    cases h' with
    | taken h' rest' => exact absurd h (h' _)
    | skipped h' rest' => rw [h.unique h', ih rest']

theorem parseWarned_eq_iff {s : String} {ws : List FilterWarning} :
    (parseWarned s).2 = ws ↔ Warns [] (pieces s) ws := by
  have hopened : Opened [] ((empty, []) : LogFilter × List FilterWarning).1 := by
    simp [Opened, empty]
  obtain ⟨ws', hws, hwarns⟩ := foldl_warns (pieces s) hopened
  rw [parseWarned, hws]
  exact ⟨fun h => h ▸ hwarns, hwarns.unique⟩

end

/-! ## Texts behind a comma -/

theorem parse_append (s s' : String) : parse (s ++ "," ++ s') = (parse s).extend (parse s') := by
  have hothers : (parse (s ++ "," ++ s')).others = ((parse s).extend (parse s')).others := by
    rw [extend, parse_others, parse_others, parse_others, pieces_append, List.findSome?_append]
  have hmodules : (parse (s ++ "," ++ s')).modules = ((parse s).extend (parse s')).modules := by
    apply Dict.ext_get?
    intro m
    rw [extend, Dict.get?_merge, get?_parse, get?_parse, get?_parse, pieces_append,
      List.reverse_append, List.findSome?_append]
  exact congrArg₂ LogFilter.mk hothers hmodules

/-- What the text `s` means. -/
structure Means (s : String) : Prop where
  pieces_eq_iff : ∀ ps, pieces s = ps ↔ Cut s.toList ps
  bound?_eq_iff : ∀ m b, (parse s).bound? m = b ↔ Bound (pieces s) m b
  warnings_eq_iff : ∀ ws, (parseWarned s).2 = ws ↔ Warns [] (pieces s) ws
  append : ∀ s', parse (s ++ "," ++ s') = (parse s).extend (parse s')

/-- **What a filter text means.** -/
theorem means (s : String) : Means s where
  pieces_eq_iff _ := pieces_eq_iff
  bound?_eq_iff _ _ := bound?_parse_eq_iff
  warnings_eq_iff _ := parseWarned_eq_iff
  append := parse_append s

/-- Two bounds for `a`, two for the others, and a piece without a name. -/
example :
    let (f, ws) := parseWarned "Warn, a = debug,, b=,=info,a=+01,5"
    f.bound? "a" = some (.atLeast .error) ∧ f.bound? "b" = some everything ∧
      f.bound? "c" = some (.atLeast .warn) ∧
      ws = [⟨.noModule, "=info"⟩, ⟨.secondDefault, "5"⟩] := by
  decide +kernel

end ModuleHost.LogFilter
