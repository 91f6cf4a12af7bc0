import ModuleHost.Log.Filter
import ModuleHost.Proofs.Text.Case

/-!
# The grammar of filter directives

* `LevelWord`, `Threshold.parse?_eq_some` — the words that name a bound;
* `Directive.Halves` — what stands before and behind the equals sign of a piece;
* `Directive.Reads`, `Directive.parse_eq_ok` — the directive of a piece;
* `Directive.Faulty`, `Directive.parse_eq_error` — what is wrong with a piece that has none.
-/

namespace ModuleHost

/-! ## Level words -/

/-- `word` names the bound `t`. -/
inductive LevelWord : List Char → Threshold → Prop where
  /-- A name, in any letter case. -/
  | name {word : List Char} {t : Threshold} (h : word.map Char.toLower = t.name.toList) :
    LevelWord word t
  /-- An unsigned decimal number up to five. -/
  | number {sign ds : List Char} {t : Threshold} (hsign : sign = [] ∨ sign = ['+'])
    (nonempty : ds ≠ []) (digits : ∀ c ∈ ds, c.isDigit)
    (h : Threshold.all[Nat.ofDigitChars 10 ds 0]? = some t) : LevelWord (sign ++ ds) t

namespace Threshold

/-- The digits of a numeral. -/
def unsigned : List Char → List Char
  | '+' :: ds => ds
  | ds => ds

theorem unsigned_append {sign ds : List Char} (hsign : sign = [] ∨ sign = ['+'])
    (digits : ∀ c ∈ ds, c.isDigit) : unsigned (sign ++ ds) = ds := by
  rcases hsign with rfl | rfl
  · cases ds with
    | nil => rfl
    | cons c ds =>
      have hc : c ≠ '+' := by
        rintro rfl
        exact absurd (digits '+' List.mem_cons_self) (by decide)
      simp [unsigned, hc]
  · rfl

theorem exists_unsigned (word : List Char) :
    ∃ sign, (sign = [] ∨ sign = ['+']) ∧ word = sign ++ unsigned word := by
  unfold unsigned
  split
  · exact ⟨['+'], .inr rfl, rfl⟩
  · exact ⟨[], .inl rfl, rfl⟩

theorem number?_eq (word : List Char) :
    number? word = if !(unsigned word).isEmpty && (unsigned word).all Char.isDigit then
      some (Nat.ofDigitChars 10 (unsigned word) 0) else none := by
  rw [Nat.ofDigitChars_eq_foldl]
  rfl

/-- A numeral is digits behind an optional plus sign. -/
theorem number?_eq_some {word : List Char} {n : Nat} :
    number? word = some n ↔ ∃ sign ds, (sign = [] ∨ sign = ['+']) ∧ word = sign ++ ds ∧ ds ≠ [] ∧
      (∀ c ∈ ds, c.isDigit) ∧ Nat.ofDigitChars 10 ds 0 = n := by
  rw [number?_eq]
  constructor
  · intro h
    obtain ⟨sign, hsign, hword⟩ := exists_unsigned word
    obtain ⟨hds, hn⟩ := Option.ite_none_right_eq_some.1 h
    simp only [Bool.and_eq_true, Bool.not_eq_true', List.isEmpty_eq_false_iff,
      List.all_eq_true] at hds
    exact ⟨sign, unsigned word, hsign, hword, hds.1, hds.2, by simpa using hn⟩
  · rintro ⟨sign, ds, hsign, rfl, nonempty, digits, rfl⟩
    rw [unsigned_append hsign digits, if_pos]
    simpa [nonempty] using digits

theorem mem_all (t : Threshold) : t ∈ all := by
  cases t with
  | off => decide
  | atLeast l => cases l <;> decide

theorem isDigit_of_mem_name {t : Threshold} {c : Char} (h : c ∈ t.name.toList) :
    c.isDigit = false := by
  have hall : ∀ t ∈ all, t.name.toList.all fun c => !c.isDigit := by decide
  simpa using List.all_eq_true.1 (hall t (mem_all t)) c h

theorem find?_name (t : Threshold) :
    (all.find? fun u => u.name.toList = t.name.toList) = some t := by
  have hall : ∀ t ∈ all, (all.find? fun u => u.name.toList = t.name.toList) = some t := by decide
  exact hall t (mem_all t)

theorem number?_of_name {word : List Char} {t : Threshold}
    (h : word.map Char.toLower = t.name.toList) : number? word = none := by
  refine Option.eq_none_iff_forall_ne_some.2 fun n hn => ?_
  obtain ⟨sign, ds, -, rfl, nonempty, digits, -⟩ := number?_eq_some.1 hn
  obtain ⟨c, hc⟩ := List.exists_mem_of_ne_nil ds nonempty
  have hname : c.toLower ∈ t.name.toList :=
    h ▸ List.mem_map_of_mem (List.mem_append_right sign hc)
  rw [(Text.toLower_eq_iff (Text.not_isAlpha_of_isDigit (digits c hc))).2 rfl] at hname
  simpa [digits c hc] using isDigit_of_mem_name hname

/-- **The words that name a bound.** -/
theorem parse?_eq_some {word : List Char} {t : Threshold} :
    parse? word = some t ↔ LevelWord word t := by
  unfold parse?
  constructor
  · intro h
    cases hnumber : number? word with
    | some n =>
      obtain ⟨sign, ds, hsign, rfl, nonempty, digits, rfl⟩ := number?_eq_some.1 hnumber
      rw [hnumber] at h
      exact .number hsign nonempty digits h
    | none =>
      rw [hnumber] at h
      have hname := List.find?_some h
      exact .name (of_decide_eq_true hname).symm
  · intro h
    cases h with
    | number hsign nonempty digits h =>
      rw [number?_eq_some.2 ⟨_, _, hsign, rfl, nonempty, digits, rfl⟩]
      exact h
    | name h =>
      rw [number?_of_name h, h]
      exact find?_name t

theorem parse?_eq_none {word : List Char} : parse? word = none ↔ ∀ t, ¬LevelWord word t := by
  rw [Option.eq_none_iff_forall_ne_some]
  exact forall_congr' fun t => not_congr parse?_eq_some

end Threshold

theorem LevelWord.ne_nil {word : List Char} {t : Threshold} (h : LevelWord word t) : word ≠ [] := by
  cases h with
  | number hsign nonempty digits h => exact List.append_ne_nil_of_right_ne_nil _ nonempty
  | name h =>
    rintro rfl
    have hall : ∀ t ∈ Threshold.all, t.name.toList ≠ [] := by decide
    exact hall t (Threshold.mem_all t) h.symm

theorem LevelWord.unique {word : List Char} {t u : Threshold} (h : LevelWord word t)
    (h' : LevelWord word u) : t = u :=
  Option.some.inj ((Threshold.parse?_eq_some.2 h).symm.trans (Threshold.parse?_eq_some.2 h'))

/-! ## Directives -/

namespace Directive

/-- The text before the equals sign of a piece, and the text behind it if there is one. -/
inductive Halves (piece : List Char) : List Char → Option (List Char) → Prop where
  | whole {raw head : List Char} (cuts : Text.Cuts '=' piece [raw]) (h : Text.Trims raw head) :
    Halves piece head none
  | halves {raw raw' head level : List Char} (cuts : Text.Cuts '=' piece [raw, raw'])
    (h : Text.Trims raw head) (h' : Text.Trims raw' level) : Halves piece head (some level)

/-- The directive that a piece gives. -/
inductive Reads (piece : List Char) : Directive → Prop where
  /-- A level word alone is for every module. -/
  | everyModule {word : List Char} {t : Threshold} (h : Halves piece word none)
    (hlevel : LevelWord word t) : Reads piece (.everyModule t)
  /-- Any other word alone names a module, of which everything passes. -/
  | name {name : List Char} (h : Halves piece name none) (hname : name ≠ [])
    (hlevel : ∀ t, ¬LevelWord name t) : Reads piece (.oneModule (String.ofList name) everything)
  /-- So it is with nothing behind the equals sign. -/
  | unbounded {name : List Char} (h : Halves piece name (some [])) (hname : name ≠ []) :
    Reads piece (.oneModule (String.ofList name) everything)
  | bounded {name word : List Char} {t : Threshold} (h : Halves piece name (some word))
    (hname : name ≠ []) (hlevel : LevelWord word t) :
    Reads piece (.oneModule (String.ofList name) t)

/-- What is wrong with a piece that gives no directive. -/
inductive Faulty (piece : List Char) : DirectiveFault → Prop where
  | manyEquals (h : 2 ≤ piece.count '=') : Faulty piece .manyEquals
  | badLevel {head word : List Char} (h : Halves piece head (some word)) (hword : word ≠ [])
    (hlevel : ∀ t, ¬LevelWord word t) : Faulty piece .badLevel
  /-- There is no name, although the level is right. -/
  | noModule {level : Option (List Char)} (h : Halves piece [] level)
    (hlevel : ∀ word ∈ level, word ≠ [] → ∃ t, LevelWord word t) : Faulty piece .noModule

variable {piece head level : List Char}

theorem parse_whole (h : Halves piece head none) :
    parse piece = (Threshold.parse? head).elim (named head everything)
      fun bound => .ok (.everyModule bound) := by
  obtain ⟨cuts, htrims⟩ := h
  simp only [parse, Text.splitAt_eq_iff.2 cuts, List.map_cons, List.map_nil,
    Text.trim_eq_iff.2 htrims]
  cases Threshold.parse? head <;> rfl

theorem parse_halves (h : Halves piece head (some level)) :
    parse piece = if level.isEmpty then named head everything
      else (Threshold.parse? level).elim (.error .badLevel) (named head) := by
  cases h with
  | halves cuts htrims htrims' =>
    simp only [parse, Text.splitAt_eq_iff.2 cuts, List.map_cons, List.map_nil,
      Text.trim_eq_iff.2 htrims, Text.trim_eq_iff.2 htrims']
    cases Threshold.parse? level <;> rfl

theorem parse_many (h : 2 ≤ piece.count '=') : parse piece = .error .manyEquals := by
  have hlength : 3 ≤ (Text.splitAt '=' piece).length := by
    rw [Text.length_splitAt]
    omega
  match hraws : Text.splitAt '=' piece, hlength with
  | raw :: raw' :: raw'' :: raws, _ => rw [parse, hraws]; rfl

theorem exists_halves (piece : List Char) :
    2 ≤ piece.count '=' ∨ ∃ head level, Halves piece head level := by
  have hlength := Text.length_splitAt '=' piece
  match hraws : Text.splitAt '=' piece with
  | [] => simp [hraws] at hlength
  | [raw] => exact .inr ⟨_, none, .whole (Text.splitAt_eq_iff.1 hraws) (Text.trims_trim raw)⟩
  | [raw, raw'] =>
    exact .inr ⟨_, some _, .halves (Text.splitAt_eq_iff.1 hraws) (Text.trims_trim raw)
      (Text.trims_trim raw')⟩
  | raw :: raw' :: raw'' :: raws =>
    simp only [hraws, List.length_cons] at hlength
    exact .inl (by omega)

theorem named_of_ne_nil {name : List Char} (h : name ≠ []) (t : Threshold) :
    named name t = .ok (.oneModule (String.ofList name) t) := by
  simp [named, h]

theorem parse_of_reads {d : Directive} (h : Reads piece d) : parse piece = .ok d := by
  cases h with
  | everyModule h hlevel =>
    rw [parse_whole h, Threshold.parse?_eq_some.2 hlevel, Option.elim_some]
  | name h hname hlevel =>
    rw [parse_whole h, Threshold.parse?_eq_none.2 hlevel]
    exact named_of_ne_nil hname _
  | unbounded h hname =>
    rw [parse_halves h]
    exact named_of_ne_nil hname _
  | bounded h hname hlevel =>
    rw [parse_halves h, Threshold.parse?_eq_some.2 hlevel, if_neg (by simpa using hlevel.ne_nil)]
    exact named_of_ne_nil hname _

theorem parse_of_faulty {fault : DirectiveFault} (h : Faulty piece fault) :
    parse piece = .error fault := by
  cases h with
  | manyEquals h => exact parse_many h
  | badLevel h hword hlevel =>
    rw [parse_halves h, Threshold.parse?_eq_none.2 hlevel, if_neg (by simpa using hword),
      Option.elim_none]
  | @noModule level h hlevel =>
    cases level with
    | none =>
      rw [parse_whole h]
      rfl
    | some word =>
      rw [parse_halves h]
      by_cases hword : word = []
      · subst hword
        rfl
      · obtain ⟨t, ht⟩ := hlevel word rfl hword
        rw [if_neg (by simpa using hword), Threshold.parse?_eq_some.2 ht]
        rfl

/-- Where the level is right, it depends on the name. -/
theorem reads_or_noModule {level : Option (List Char)} {d : Directive} (h : Halves piece head level)
    (hlevel : ∀ word ∈ level, word ≠ [] → ∃ t, LevelWord word t)
    (hreads : head ≠ [] → Reads piece d) :
    (∃ d, Reads piece d) ∨ ∃ fault, Faulty piece fault := by
  by_cases hhead : head = []
  · subst hhead
    exact .inr ⟨_, .noModule h hlevel⟩
  · exact .inl ⟨d, hreads hhead⟩

theorem reads_or_faulty (piece : List Char) :
    (∃ d, Reads piece d) ∨ ∃ fault, Faulty piece fault := by
  rcases exists_halves piece with h | ⟨head, level, h⟩
  · exact .inr ⟨_, .manyEquals h⟩
  cases level with
  | none =>
    cases hlevel : Threshold.parse? head with
    | some t => exact .inl ⟨_, .everyModule h (Threshold.parse?_eq_some.1 hlevel)⟩
    | none =>
      have hnone := Threshold.parse?_eq_none.1 hlevel
      exact reads_or_noModule h nofun fun hhead => .name h hhead hnone
  | some word =>
    by_cases hword : word = []
    · subst hword
      exact reads_or_noModule h (by simp) fun hhead => .unbounded h hhead
    cases hlevel : Threshold.parse? word with
    | none => exact .inr ⟨_, .badLevel h hword (Threshold.parse?_eq_none.1 hlevel)⟩
    | some t =>
      have hlevel := Threshold.parse?_eq_some.1 hlevel
      exact reads_or_noModule h (by simpa using fun _ => ⟨t, hlevel⟩)
        fun hhead => .bounded h hhead hlevel

/-- **The directive of a piece.** -/
theorem parse_eq_ok {d : Directive} : parse piece = .ok d ↔ Reads piece d := by
  refine ⟨fun h => ?_, parse_of_reads⟩
  rcases reads_or_faulty piece with ⟨d', h'⟩ | ⟨fault, h'⟩
  · obtain rfl : d' = d := by simpa [h] using (parse_of_reads h').symm
    exact h'
  · simp [parse_of_faulty h'] at h

/-- **What is wrong with a piece.** -/
theorem parse_eq_error {fault : DirectiveFault} :
    parse piece = .error fault ↔ Faulty piece fault := by
  refine ⟨fun h => ?_, parse_of_faulty⟩
  rcases reads_or_faulty piece with ⟨d, h'⟩ | ⟨fault', h'⟩
  · simp [parse_of_reads h'] at h
  · obtain rfl : fault' = fault := by simpa [h] using (parse_of_faulty h').symm
    exact h'

end Directive

end ModuleHost
