import ModuleHost.Proofs.Log.Grammar

/-!
# The level and the filter of one text

A text without commas and equals signs may be read as a level or as a filter.

* `LogLevel.ofWord?_eq_some`: a word names a level when it names the bound at that level;
* `Respelled` — texts that differ in letter case, in white space around them, in a plus sign or in
  leading zeros; `Respelled.parse?_trim`: they name the same bound;
* `LogFilter.parse_of_levelWord`, `LogFilter.parse_of_name`, `LogFilter.parse_of_blank` — the filter
  of a text without separators;
* `LogLevel.Accord`, **`LogLevel.accords`**: the two readings accept the same texts as levels.
-/

namespace ModuleHost

/-! ## Words that name a level -/

theorem LogLevel.mem_all (l : LogLevel) : l ∈ all := by
  cases l <;> decide

/-- The number of a bound at a level is the one by which guests name the level. -/
theorem Threshold.getElem?_all_eq_some {n : Nat} {l : LogLevel} :
    all[n]? = some (.atLeast l) ↔ l.guest = n := by
  constructor
  · intro h
    have hall : ∀ k < all.length, ∀ l ∈ LogLevel.all, all[k]? = some (.atLeast l) → l.guest = k := by
      decide
    obtain ⟨hlt, -⟩ := List.getElem?_eq_some_iff.1 h
    exact hall n hlt l (LogLevel.mem_all l) h
  · rintro rfl
    cases l <;> rfl

namespace LogLevel

variable {s : String} {l : LogLevel}

theorem find?_guest {n : Nat} : all.find? (·.guest = n) = some l ↔ l.guest = n := by
  constructor
  · intro h
    have hfound := List.find?_some h
    exact of_decide_eq_true hfound
  · rintro rfl
    cases l <;> rfl

theorem find?_name {word : List Char} :
    (all.find? fun u => u.name.toList = word) = some l ↔ word = l.name.toList := by
  constructor
  · intro h
    have hfound := List.find?_some h
    exact (of_decide_eq_true hfound).symm
  · rintro rfl
    cases l <;> decide

/-- **The words that name a level** are those that name the bound at that level. -/
theorem ofWord?_eq_some {word : List Char} :
    ofWord? word = some l ↔ LevelWord word (.atLeast l) := by
  unfold ofWord?
  rw [Option.or_eq_some_iff, find?_name]
  constructor
  · rintro (h | ⟨-, h⟩)
    · obtain ⟨n, hnumber, hl⟩ := Option.bind_eq_some_iff.1 h
      obtain ⟨sign, ds, hsign, rfl, nonempty, digits, rfl⟩ := Threshold.number?_eq_some.1 hnumber
      exact .number hsign nonempty digits (Threshold.getElem?_all_eq_some.2 (find?_guest.1 hl))
    · exact .name h
  · intro h
    cases h with
    | number hsign nonempty digits h =>
      have hnumber := Threshold.number?_eq_some.2 ⟨_, _, hsign, rfl, nonempty, digits, rfl⟩
      exact .inl (Option.bind_eq_some_iff.2
        ⟨_, hnumber, find?_guest.2 (Threshold.getElem?_all_eq_some.1 h)⟩)
    | name h => exact .inr ⟨by rw [Threshold.number?_of_name h, Option.bind_none], h⟩

theorem parse_eq_ok : parse s = .ok l ↔ LevelWord (Text.trim s.toList) (.atLeast l) := by
  rw [← ofWord?_eq_some, parse]
  cases ofWord? (Text.trim s.toList) <;> simp

end LogLevel

/-! ## Spellings -/

/-- `cs'` is another spelling of `cs`. -/
inductive Respelled : List Char → List Char → Prop where
  /-- The letters may be of either case. -/
  | cased {cs cs' : List Char} (h : cs'.map Char.toLower = cs.map Char.toLower) : Respelled cs cs'
  /-- White space may surround the text. -/
  | spaced {cs before after : List Char} (hbefore : ∀ c ∈ before, Text.isBlank c)
    (hafter : ∀ c ∈ after, Text.isBlank c) : Respelled cs (before ++ cs ++ after)
  /-- A plus sign and zeros may stand before digits. -/
  | signed {ds : List Char} (nonempty : ds ≠ []) (digits : ∀ c ∈ ds, c.isDigit) :
    Respelled ds ('+' :: ds)
  | padded {ds : List Char} (nonempty : ds ≠ []) (digits : ∀ c ∈ ds, c.isDigit) :
    Respelled ds ('0' :: ds)
  | symm {cs cs' : List Char} (h : Respelled cs cs') : Respelled cs' cs
  | trans {cs cs' cs'' : List Char} (h : Respelled cs cs') (h' : Respelled cs' cs'') :
    Respelled cs cs''

namespace Threshold

variable {word word' ds : List Char} {n : Nat}

theorem mem_numeral (h : number? word = some n) {c : Char} (hc : c ∈ word) :
    c = '+' ∨ c.isDigit := by
  obtain ⟨sign, ds, hsign, rfl, -, digits, -⟩ := number?_eq_some.1 h
  rcases List.mem_append.1 hc with hc | hc
  · rcases hsign with rfl | rfl
    · cases hc
    · exact .inl (List.mem_singleton.1 hc)
  · exact .inr (digits c hc)

theorem parse?_trim_of_number? (h : number? word = some n) :
    parse? (Text.trim word) = all[n]? := by
  have hsolid : ∀ c ∈ word, ¬Text.isBlank c := by
    intro c hc
    rcases mem_numeral h hc with rfl | hdigit
    · decide
    · exact Text.not_isBlank_of_isDigit hdigit
  rw [Text.trim_eq_self hsolid, parse?, h]

theorem number?_digits (nonempty : ds ≠ []) (digits : ∀ c ∈ ds, c.isDigit) :
    number? ds = some (Nat.ofDigitChars 10 ds 0) :=
  number?_eq_some.2 ⟨[], ds, .inl rfl, rfl, nonempty, digits, rfl⟩

theorem number?_signed (nonempty : ds ≠ []) (digits : ∀ c ∈ ds, c.isDigit) :
    number? ('+' :: ds) = some (Nat.ofDigitChars 10 ds 0) :=
  number?_eq_some.2 ⟨['+'], ds, .inr rfl, rfl, nonempty, digits, rfl⟩

theorem number?_padded (digits : ∀ c ∈ ds, c.isDigit) :
    number? ('0' :: ds) = some (Nat.ofDigitChars 10 ds 0) :=
  number?_digits (List.cons_ne_nil _ _) (List.forall_mem_cons.2 ⟨rfl, digits⟩)

/-- A numeral has no letters, so it is spelled alike in any case. -/
theorem number?_of_cased (h : word'.map Char.toLower = word.map Char.toLower)
    (hnumber : number? word = some n) : number? word' = some n := by
  have hletters : ∀ c ∈ word, ¬c.isAlpha := by
    intro c hc
    rcases mem_numeral hnumber hc with rfl | hdigit
    · decide
    · exact Text.not_isAlpha_of_isDigit hdigit
  rwa [Text.eq_of_cased h hletters]

theorem parse?_cased (h : word'.map Char.toLower = word.map Char.toLower) :
    parse? word' = parse? word := by
  have hnumber : number? word' = number? word :=
    Option.ext fun n => ⟨number?_of_cased h.symm, number?_of_cased h⟩
  rw [parse?, parse?, hnumber, h]

end Threshold

namespace Respelled

variable {cs cs' : List Char}

/-- **Another spelling names the same bound.** -/
theorem parse?_trim (h : Respelled cs cs') :
    Threshold.parse? (Text.trim cs') = Threshold.parse? (Text.trim cs) := by
  induction h with
  | cased h =>
    apply Threshold.parse?_cased
    rw [← Text.trim_map_toLower, h, Text.trim_map_toLower]
  | spaced hbefore hafter => rw [Text.trim_between _ hbefore hafter]
  | signed nonempty digits =>
    rw [Threshold.parse?_trim_of_number? (Threshold.number?_signed nonempty digits),
      Threshold.parse?_trim_of_number? (Threshold.number?_digits nonempty digits)]
  | padded nonempty digits =>
    rw [Threshold.parse?_trim_of_number? (Threshold.number?_padded digits),
      Threshold.parse?_trim_of_number? (Threshold.number?_digits nonempty digits)]
  | symm h ih => exact ih.symm
  | trans h h' ih ih' => exact ih'.trans ih

theorem levelWord_iff (h : Respelled cs cs') {t : Threshold} :
    LevelWord (Text.trim cs') t ↔ LevelWord (Text.trim cs) t := by
  rw [← Threshold.parse?_eq_some, h.parse?_trim, Threshold.parse?_eq_some]

theorem mem_iff (h : Respelled cs cs') {sep : Char} (hsep : sep = ',' ∨ sep = '=') :
    sep ∈ cs' ↔ sep ∈ cs := by
  have halpha : ¬sep.isAlpha := by rcases hsep with rfl | rfl <;> decide
  have hblank : ¬Text.isBlank sep := by rcases hsep with rfl | rfl <;> decide
  have hother : sep ≠ '+' ∧ sep ≠ '0' := by rcases hsep with rfl | rfl <;> decide
  induction h with
  | cased h => exact ⟨Text.mem_of_cased h halpha, Text.mem_of_cased h.symm halpha⟩
  | spaced hbefore hafter =>
    -- what is added is white space
    have hnot := mt (hbefore sep) hblank
    have hnot' := mt (hafter sep) hblank
    simp only [List.mem_append, hnot, hnot', false_or, or_false]
  | signed => simp only [List.mem_cons, hother.1, false_or]
  | padded => simp only [List.mem_cons, hother.2, false_or]
  | symm h ih => exact ih.symm
  | trans h h' ih ih' => exact ih'.trans ih

end Respelled

/-! ## Filters of one piece -/

namespace LogFilter

variable {s : String} {t : Threshold}

theorem admits_others (bound l : LogLevel) (m : String) :
    (⟨some (.atLeast bound), Dict.empty⟩ : LogFilter).admits m l ↔ bound ≤ l := by
  simp [admits, bound?, Dict.get?_empty, Threshold.admits]

theorem admits_one (name m : String) (l : LogLevel) :
    (⟨none, Dict.empty.insert name everything⟩ : LogFilter).admits m l ↔ m = name := by
  have heverything : everything.admits l := by cases l <;> rfl
  by_cases hm : m = name
  · simp [admits, bound?, Dict.get?_insert, hm, heverything]
  · simp [admits, bound?, Dict.get?_insert, Dict.get?_empty, hm]

theorem pieces_of_not_mem (hcomma : ',' ∉ s.toList) :
    pieces s = [Text.trim s.toList].filter (!·.isEmpty) := by
  rw [pieces, Text.splitAt_eq_iff.2 (Text.cuts_of_not_mem hcomma)]
  rfl

theorem halves_trim (hequals : '=' ∉ s.toList) :
    Directive.Halves (Text.trim s.toList) (Text.trim s.toList) none :=
  .whole (Text.cuts_of_not_mem (mt Text.mem_of_mem_trim hequals))
    (Text.trim_eq_iff.1 (Text.trim_trim s.toList))

theorem parse_of_blank (hcomma : ',' ∉ s.toList) (hblank : Text.trim s.toList = []) :
    parse s = empty := by
  rw [parse, parseWarned, pieces_of_not_mem hcomma, hblank]
  rfl

theorem parse_of_reads {d : Directive} (hcomma : ',' ∉ s.toList) (hsolid : Text.trim s.toList ≠ [])
    (reads : Directive.Reads (Text.trim s.toList) d) {f : LogFilter} (hf : empty.apply d = .ok f) :
    parse s = f := by
  have hpieces : pieces s = [Text.trim s.toList] := by
    rw [pieces_of_not_mem hcomma, List.filter_cons_of_pos (by simpa using hsolid), List.filter_nil]
  rw [parse, parseWarned, hpieces, List.foldl_cons, List.foldl_nil, addPiece,
    Directive.parse_of_reads reads]
  simp [bind, Except.bind, hf]

theorem parse_of_levelWord (hcomma : ',' ∉ s.toList) (hequals : '=' ∉ s.toList)
    (h : LevelWord (Text.trim s.toList) t) : parse s = ⟨some t, Dict.empty⟩ :=
  parse_of_reads hcomma h.ne_nil (.everyModule (halves_trim hequals) h) rfl

theorem parse_of_name (hcomma : ',' ∉ s.toList) (hequals : '=' ∉ s.toList)
    (hsolid : Text.trim s.toList ≠ []) (h : ∀ t, ¬LevelWord (Text.trim s.toList) t) :
    parse s = ⟨none, Dict.empty.insert (String.ofList (Text.trim s.toList)) everything⟩ :=
  parse_of_reads hcomma hsolid (.name (halves_trim hequals) hsolid h) rfl

/-- **The bound of every module** is the one that the text names. -/
theorem others_parse (hcomma : ',' ∉ s.toList) (hequals : '=' ∉ s.toList) :
    (parse s).others = some t ↔ LevelWord (Text.trim s.toList) t := by
  constructor
  · intro h
    -- without a bound in the text there is one of a module, or none at all
    cases hlevel : Threshold.parse? (Text.trim s.toList) with
    | some u =>
      have hlevel := Threshold.parse?_eq_some.1 hlevel
      rw [parse_of_levelWord hcomma hequals hlevel] at h
      cases h
      exact hlevel
    | none =>
      by_cases hsolid : Text.trim s.toList = []
      · rw [parse_of_blank hcomma hsolid] at h
        cases h
      · rw [parse_of_name hcomma hequals hsolid (Threshold.parse?_eq_none.1 hlevel)] at h
        cases h
  · intro h
    rw [parse_of_levelWord hcomma hequals h]

end LogFilter

/-! ## The two readings -/

namespace LogLevel

/-- How the level of the text `s` and its filter agree. -/
structure Accord (s : String) : Prop where
  /-- The text is read as a level when its filter bounds every module by that level. -/
  parse_eq_ok_iff : ∀ l, parse s = .ok l ↔ (LogFilter.parse s).others = some (.atLeast l)
  /-- Every module then emits the level and what is more severe. -/
  admits_iff : ∀ l, parse s = .ok l → ∀ m l', (LogFilter.parse s).admits m l' ↔ l ≤ l'
  /-- The bounds are the numbers up to five and the names. -/
  others_eq_iff : ∀ t, (LogFilter.parse s).others = some t ↔ LevelWord (Text.trim s.toList) t
  /-- Neither reading depends on the spelling. -/
  respelled : ∀ s', Respelled s.toList s'.toList →
    (∀ l, parse s' = .ok l ↔ parse s = .ok l) ∧
      (LogFilter.parse s').others = (LogFilter.parse s).others
  /-- The bound that is no level is `off`. -/
  off_iff : ((LogFilter.parse s).others.isSome ∧ ∀ l, parse s ≠ .ok l) ↔
    LevelWord (Text.trim s.toList) .off
  /-- Any other word is the name of the one module that emits anything. -/
  name : Text.trim s.toList ≠ [] → (∀ l, parse s ≠ .ok l) → ¬LevelWord (Text.trim s.toList) .off →
    LogFilter.parse s = ⟨none, Dict.empty.insert (String.ofList (Text.trim s.toList)) everything⟩ ∧
      ∀ m l, (LogFilter.parse s).admits m l ↔ m = String.ofList (Text.trim s.toList)

variable {s : String}

theorem levelWord_off {t : Threshold} (hparse : ∀ l, parse s ≠ .ok l)
    (h : LevelWord (Text.trim s.toList) t) : t = .off := by
  cases t with
  | off => rfl
  | atLeast l => exact absurd (parse_eq_ok.2 h) (hparse l)

/-- **The level and the filter of a text without separators agree.** -/
theorem accords (hcomma : ',' ∉ s.toList) (hequals : '=' ∉ s.toList) : Accord s where
  parse_eq_ok_iff l := by
    rw [parse_eq_ok, LogFilter.others_parse hcomma hequals]
  admits_iff l h m l' := by
    rw [LogFilter.parse_of_levelWord hcomma hequals (parse_eq_ok.1 h)]
    exact LogFilter.admits_others l l' m
  others_eq_iff t := LogFilter.others_parse hcomma hequals
  respelled s' h := by
    -- the other spelling is of one piece, too
    have hcomma' : ',' ∉ s'.toList := mt (h.mem_iff (.inl rfl)).1 hcomma
    have hequals' : '=' ∉ s'.toList := mt (h.mem_iff (.inr rfl)).1 hequals
    refine ⟨fun l => ?_, Option.ext fun t => ?_⟩
    · rw [parse_eq_ok, parse_eq_ok, h.levelWord_iff]
    · rw [LogFilter.others_parse hcomma' hequals', LogFilter.others_parse hcomma hequals,
        h.levelWord_iff]
  off_iff := by
    constructor
    · rintro ⟨hsome, hparse⟩
      obtain ⟨t, ht⟩ := Option.isSome_iff_exists.1 hsome
      have hlevel := (LogFilter.others_parse hcomma hequals).1 ht
      exact levelWord_off hparse hlevel ▸ hlevel
    · intro h
      refine ⟨by rw [(LogFilter.others_parse hcomma hequals).2 h, Option.isSome_some], ?_⟩
      intro l hparse
      cases h.unique (parse_eq_ok.1 hparse)
  name hsolid hparse hoff := by
    have hlevel : ∀ t, ¬LevelWord (Text.trim s.toList) t :=
      fun t h => hoff (levelWord_off hparse h ▸ h)
    have hfilter := LogFilter.parse_of_name hcomma hequals hsolid hlevel
    refine ⟨hfilter, fun m l => ?_⟩
    rw [hfilter]
    exact LogFilter.admits_one _ m l

theorem respelled_three : Respelled "3".toList "\u3000+003\t".toList := by
  have hpadded : Respelled ['3'] ['0', '3'] := .padded (by decide) (by simp)
  have hpadded' : Respelled ['0', '3'] ['0', '0', '3'] := .padded (by decide) (by simp)
  have hsigned : Respelled ['0', '0', '3'] ['+', '0', '0', '3'] := .signed (by decide) (by simp)
  have hspaced : Respelled ['+', '0', '0', '3'] (['\u3000'] ++ ['+', '0', '0', '3'] ++ ['\t']) :=
    .spaced (List.forall_mem_singleton.2 rfl) (List.forall_mem_singleton.2 rfl)
  exact hpadded.trans (hpadded'.trans (hsigned.trans hspaced))

/-- A numeral for a level, one for `off`, and one that is the name of a module. -/
theorem accords_numerals :
    parse "\u3000+003\t" = .ok .info ∧
      (∀ m l, (LogFilter.parse "\u3000+003\t").admits m l ↔ .info ≤ l) ∧
      ((LogFilter.parse "+00").others.isSome ∧ ∀ l, parse "+00" ≠ .ok l) ∧
      ∀ m l, (LogFilter.parse " 6 ").admits m l ↔ m = "6" := by
  have hthree : Accord "3" := accords (by decide) (by decide)
  have hspelled : Accord "\u3000+003\t" := accords (by decide) (by decide)
  have hzero : Accord "+00" := accords (by decide) (by decide)
  have hsix : Accord " 6 " := accords (by decide) (by decide)
  have hlevel : parse "\u3000+003\t" = .ok .info :=
    ((hthree.respelled _ respelled_three).1 .info).2 rfl
  have hbound : (LogFilter.parse "+00").others = some .off := by decide +kernel
  have hothers : (LogFilter.parse " 6 ").others = none := by decide +kernel
  have hname : ∀ l, parse " 6 " ≠ .ok l := by
    intro l hparse
    rw [hsix.parse_eq_ok_iff, hothers] at hparse
    cases hparse
  have hnotOff : ¬LevelWord (Text.trim " 6 ".toList) .off := by
    rw [← hsix.others_eq_iff, hothers]
    exact nofun
  exact ⟨hlevel, hspelled.admits_iff .info hlevel,
    hzero.off_iff.2 ((hzero.others_eq_iff .off).1 hbound), (hsix.name (by decide) hname hnotOff).2⟩

end LogLevel

end ModuleHost
