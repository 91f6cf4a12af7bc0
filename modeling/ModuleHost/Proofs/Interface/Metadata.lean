import ModuleHost.Interface.Basic
import ModuleHost.Proofs.Json.Record
import ModuleHost.Proofs.Text.Utf8

/-!
# Accepted metadata

* `Interface.Distinct`, `Interface.FirstRepeat` — no name is repeated; the first one that is;
* `Interface.distinct_or_firstRepeat`, **`check_eq_ok`**, **`check_eq_error`**: the check decides
  between the two and names the repeated one;
* `FunctionSignature.format`, `Interface.format` — the JSON that stands for an interface;
* `Declaration` — a function as it is declared, with or without its parameters;
* `Interface.parse_of_stands`, `Interface.function?_eq_some` — what is read from such JSON; the
  function of a name;
* **`Interface.judges`**: which metadata is accepted, and what every other is refused for.
-/

namespace ModuleHost

open Json (Describes Format Lawful RecordField)

/-! ## Repeated names -/

namespace Interface

/-- The functions have different names, and so have the parameters of each. -/
structure Distinct (i : Interface) : Prop where
  functions : (i.functions.map (·.name)).Nodup
  params : ∀ f ∈ i.functions, f.params.Nodup

/-- The first repeated name in document order, all names before it being different: that of a
function, or that of a parameter of a function whose own name is new. -/
inductive FirstRepeat : Interface → InterfaceError → Prop
  | function {before : List FunctionSignature} {f : FunctionSignature}
      {after : List FunctionSignature} :
      Distinct ⟨before⟩ → f.name ∈ before.map (·.name) →
        FirstRepeat ⟨before ++ f :: after⟩ (.duplicateFunction f.name)
  | param {before : List FunctionSignature} {f : FunctionSignature}
      {after : List FunctionSignature} {front back : List String} {p : String} :
      Distinct ⟨before⟩ → f.name ∉ before.map (·.name) →
        f.params = front ++ p :: back → front.Nodup → p ∈ front →
          FirstRepeat ⟨before ++ f :: after⟩ (.duplicateParam f.name p)

theorem nodup_or_repeats (names : List String) :
    names.Nodup ∨ ∃ front p back, names = front ++ p :: back ∧ front.Nodup ∧ p ∈ front := by
  induction names using List.reverseRecOn with
  | nil => exact .inl List.nodup_nil
  | append_singleton names name ih =>
    rcases ih with hnodup | ⟨front, p, back, rfl, hfront, hp⟩
    · by_cases hname : name ∈ names
      · exact .inr ⟨names, name, [], rfl, hnodup, hname⟩
      · exact .inl (by simpa using hnodup.concat hname)
    · exact .inr ⟨front, p, back ++ [name], by simp, hfront, hp⟩

theorem firstRepeated_append {front : List String} (nodup : front.Nodup) (rest : List String) :
    ∀ {seen : List String}, (∀ name ∈ front, name ∉ seen) →
      firstRepeated seen (front ++ rest) = firstRepeated (front.reverse ++ seen) rest := by
  induction front with
  | nil => exact fun _ => rfl
  | cons name front ih =>
    intro seen fresh
    obtain ⟨hname, hnodup⟩ := List.nodup_cons.1 nodup
    obtain ⟨hseen, hfresh⟩ := List.forall_mem_cons.1 fresh
    have hnext : ∀ other ∈ front, other ∉ name :: seen := fun other hother hmem => by
      rcases List.mem_cons.1 hmem with rfl | hmem
      · exact hname hother
      · exact hfresh other hother hmem
    rw [List.cons_append, firstRepeated, if_neg (by simpa using hseen), ih hnodup hnext]
    simp

theorem firstRepeated_of_nodup {names : List String} (h : names.Nodup) :
    firstRepeated [] names = none := by
  have happend : firstRepeated [] (names ++ []) = firstRepeated (names.reverse ++ []) [] :=
    firstRepeated_append h [] (by simp)
  rwa [List.append_nil] at happend

theorem firstRepeated_of_repeats {front back : List String} {p : String} (h : front.Nodup)
    (hp : p ∈ front) : firstRepeated [] (front ++ p :: back) = some p := by
  rw [firstRepeated_append h _ (by simp), firstRepeated, if_pos (by simpa using hp)]

theorem checkFrom_append {before : List FunctionSignature} (distinct : Distinct ⟨before⟩)
    (rest : List FunctionSignature) :
    ∀ {seen : List String}, (∀ f ∈ before, f.name ∉ seen) →
      checkFrom seen (before ++ rest) =
        checkFrom ((before.map (·.name)).reverse ++ seen) rest := by
  induction before with
  | nil => exact fun _ => rfl
  | cons f before ih =>
    intro seen fresh
    obtain ⟨hname, hnodup⟩ := List.nodup_cons.1 distinct.functions
    obtain ⟨hparams, hrest⟩ := List.forall_mem_cons.1 distinct.params
    obtain ⟨hseen, hfresh⟩ := List.forall_mem_cons.1 fresh
    have hnext : ∀ g ∈ before, g.name ∉ f.name :: seen := fun g hg hmem => by
      rcases List.mem_cons.1 hmem with heq | hmem
      · exact hname (List.mem_map.2 ⟨g, hg, heq⟩)
      · exact hfresh g hg hmem
    rw [List.cons_append, checkFrom, if_neg (by simpa using hseen), firstRepeated_of_nodup hparams]
    simp only
    rw [ih ⟨hnodup, hrest⟩ hnext]
    simp

theorem check_of_distinct {i : Interface} (h : i.Distinct) : i.check = .ok () := by
  have happend : checkFrom [] (i.functions ++ []) =
      checkFrom ((i.functions.map (·.name)).reverse ++ []) [] := checkFrom_append h [] (by simp)
  rwa [List.append_nil] at happend

theorem check_of_firstRepeat {i : Interface} {e : InterfaceError} (h : i.FirstRepeat e) :
    i.check = .error e := by
  cases h with
  | function hbefore hname =>
    rw [check, checkFrom_append hbefore _ (by simp), checkFrom, if_pos (by simpa using hname)]
  | param hbefore hname hparams hfront hp =>
    rw [check, checkFrom_append hbefore _ (by simp), checkFrom, if_neg (by simpa using hname),
      hparams, firstRepeated_of_repeats hfront hp]

theorem distinct_or_firstRepeat (i : Interface) : i.Distinct ∨ ∃ e, i.FirstRepeat e := by
  obtain ⟨functions⟩ := i
  induction functions using List.reverseRecOn with
  | nil => exact .inl ⟨List.nodup_nil, by simp⟩
  | append_singleton fs f ih =>
    rcases ih with hdistinct | ⟨e, hrepeat⟩
    · by_cases hname : f.name ∈ fs.map (·.name)
      · exact .inr ⟨_, .function hdistinct hname⟩
      · rcases nodup_or_repeats f.params with hparams | ⟨front, p, back, hparams, hfront, hp⟩
        · refine .inl ⟨?_, ?_⟩
          · simpa using hdistinct.functions.concat hname
          · simpa [or_imp, forall_and] using ⟨hdistinct.params, hparams⟩
        · exact .inr ⟨_, .param hdistinct hname hparams hfront hp⟩
    · -- a further function does not change which name repeats first
      refine .inr ⟨e, ?_⟩
      cases hrepeat with
      | function hbefore hname =>
        rw [List.append_assoc, List.cons_append]
        exact .function hbefore hname
      | param hbefore hname hparams hfront hp =>
        rw [List.append_assoc, List.cons_append]
        exact .param hbefore hname hparams hfront hp

/-- **The check passes** if and only if no name is repeated. -/
theorem check_eq_ok {i : Interface} : i.check = .ok () ↔ i.Distinct := by
  refine ⟨fun h => ?_, check_of_distinct⟩
  rcases i.distinct_or_firstRepeat with hdistinct | ⟨e, hrepeat⟩
  · exact hdistinct
  · rw [check_of_firstRepeat hrepeat] at h
    cases h

/-- **The check fails** with the first name that is repeated. -/
theorem check_eq_error {i : Interface} {e : InterfaceError} :
    i.check = .error e ↔ i.FirstRepeat e := by
  refine ⟨fun h => ?_, check_of_firstRepeat⟩
  rcases i.distinct_or_firstRepeat with hdistinct | ⟨e', hrepeat⟩
  · rw [check_of_distinct hdistinct] at h
    cases h
  · rw [check_of_firstRepeat hrepeat] at h
    cases h
    exact hrepeat

/-- The parameters of a function come before the name of the next. -/
example : check ⟨[⟨"f", ["a", "b", "a"]⟩, ⟨"f", []⟩]⟩ = .error (.duplicateParam "f" "a") := by
  decide

theorem distinct_of_parse {raw : Text} {i : Interface} (h : parse raw = .ok i) : i.Distinct := by
  unfold parse at h
  split at h
  · cases h
  · split at h
    · next hcheck =>
      cases h
      exact check_eq_ok.1 hcheck
    · cases h

theorem function?_eq_some {i : Interface} (h : i.Distinct) {name : String}
    {f : FunctionSignature} : i.function? name = some f ↔ f ∈ i.functions ∧ f.name = name := by
  constructor
  · intro hf
    exact ⟨List.mem_of_find?_eq_some hf, by simpa using List.find?_some hf⟩
  · rintro ⟨hf, rfl⟩
    have hfound : ((i.functions.find? (·.name = f.name)).isSome) := by
      simpa using ⟨f, hf, rfl⟩
    obtain ⟨g, hg⟩ := Option.isSome_iff_exists.1 hfound
    have hname : g.name = f.name := by simpa using List.find?_some hg
    have heq : g = f := List.inj_on_of_nodup_map h.functions (List.mem_of_find?_eq_some hg) hf hname
    rw [function?, hg, heq]

end Interface

/-! ## JSON for an interface -/

namespace FunctionSignature

/-- The fields of a function. -/
def fields : List (RecordField FunctionSignature) :=
  [⟨"name", true, .string, FunctionSignature.name, fun f s => { f with name := s },
     fun _ _ => rfl⟩,
   ⟨"params", false, .list .string, FunctionSignature.params, fun f ps => { f with params := ps },
     fun _ _ => rfl⟩]

theorem lawful_fields : Lawful fields where
  distinct := by decide
  apart := by simp [fields, RecordField.Apart]
  ext a b h := by
    simp only [fields, List.forall_mem_cons] at h
    cases a
    cases b
    simp_all

/-- The format of functions. -/
def format : Format FunctionSignature := .record fields lawful_fields { name := "" }

end FunctionSignature

namespace Interface

/-- The fields of an interface. -/
def fields : List (RecordField Interface) :=
  [⟨"functions", false, .list FunctionSignature.format, Interface.functions,
     fun i fs => { i with functions := fs }, fun _ _ => rfl⟩]

theorem lawful_fields : Lawful fields where
  distinct := by decide
  apart := by simp [fields, RecordField.Apart]
  ext a b h := by
    simp only [fields, List.forall_mem_cons] at h
    cases a
    cases b
    simp_all

/-- The format of interfaces. -/
def format : Format Interface := .record fields lawful_fields {}

end Interface

/-- A function as it is declared: its parameters may be left out. -/
structure Declaration where
  name : String
  params : Option (List String)

namespace Declaration

/-- The function that is declared. -/
def signature (d : Declaration) : FunctionSignature := ⟨d.name, d.params.getD []⟩

/-- The object of a declaration. -/
def toJson (d : Declaration) : Json :=
  .fields (("name", .string d.name) ::
    (d.params.map fun ps => ("params", Json.strings ps)).toList)

theorem stands_toJson (d : Declaration) : FunctionSignature.format.Stands d.toJson d.signature := by
  have hfull : Describes FunctionSignature.fields { name := "" } d.signature
      [("name", .string d.name), ("params", .strings (d.params.getD []))] :=
    .of_forall₂ FunctionSignature.lawful_fields (.cons ⟨rfl, rfl⟩
      (.cons ⟨rfl, Format.stands_list (fun _ => rfl) (d.params.getD [])⟩ .nil))
  obtain ⟨name, params⟩ := d
  cases params with
  | none =>
    exact ⟨_, rfl, hfull.filter (fun k => k = "name")
      (by simp [FunctionSignature.fields, signature])⟩
  | some ps => exact ⟨_, rfl, hfull⟩

end Declaration

namespace Interface

/-- The object of an interface that is declared so. -/
def declaration (ds : List Declaration) : Json :=
  .fields [("functions", .array (ds.map Declaration.toJson))]

/-- The interface that is declared so. -/
def declared (ds : List Declaration) : Interface := ⟨ds.map Declaration.signature⟩

theorem stands_declaration (ds : List Declaration) :
    format.Stands (declaration ds) (declared ds) := by
  have hfunctions : FunctionSignature.format.list.Stands (.array (ds.map Declaration.toJson))
      (ds.map Declaration.signature) :=
    ⟨_, rfl, List.forall₂_map_left_iff.2 (List.forall₂_map_right_iff.2
      (List.forall₂_same.2 fun d _ => d.stands_toJson))⟩
  exact ⟨_, rfl, .of_forall₂ lawful_fields (.cons ⟨rfl, hfunctions⟩ .nil)⟩

theorem stands_toJson (i : Interface) : format.Stands i.toJson i := by
  have hdeclared := stands_declaration (i.functions.map fun f => ⟨f.name, some f.params⟩)
  have hsame : declared (i.functions.map fun f => ⟨f.name, some f.params⟩) = i := by
    simp [declared, Declaration.signature, Function.comp_def]
  have hjson : declaration (i.functions.map fun f => ⟨f.name, some f.params⟩) = i.toJson := by
    simp [declaration, toJson, Declaration.toJson, Function.comp_def]
  rwa [hsame, hjson] at hdeclared

/-! ## The judgement -/

/-- What becomes of metadata for the interface `i`: it is accepted if no name is repeated, or else
refused for the first one that is. -/
structure Judged (i : Interface) (content : Bytes) : Prop where
  accepted : parse (Text.decode content) = .ok i ↔ i.Distinct
  refused : ∀ e, parse (Text.decode content) = .error e ↔ i.FirstRepeat e
  settled : i.Distinct ∨ ∃ e, i.FirstRepeat e

theorem parse_of_stands {i : Interface} {j : Json} (h : format.Stands j i) :
    parse (Text.decode (Text.bytes j.compact)) =
      match i.check with
      | .ok () => .ok i
      | .error e => .error e := by
  have hread : (Json.Reader.record members {}).whole (Text.ofString j.compact) = .ok i :=
    format.whole_compact h
  unfold parse
  cases hcheck : i.check <;> simp [Text.decode_bytes, hread, hcheck]

theorem judged_of_stands {i : Interface} {j : Json} (h : format.Stands j i) :
    i.Judged (Text.bytes j.compact) where
  accepted := by
    rw [parse_of_stands h, ← check_eq_ok]
    cases i.check <;> simp
  refused e := by
    rw [parse_of_stands h, ← check_eq_error]
    cases i.check <;> simp
  settled := i.distinct_or_firstRepeat

/-- **Which metadata is accepted.** That of an interface is, unless a name is repeated, and then the
first repeated one is the error; parameters that are left out are none. The interface of any
accepted text repeats no name, and looking a name up finds the one function that has it. -/
theorem judges :
    (∀ i : Interface, i.Judged (Text.bytes i.toJson.compact)) ∧
    (∀ ds : List Declaration, (declared ds).Judged (Text.bytes (declaration ds).compact)) ∧
    ∀ (content : Bytes) (i : Interface), parse (Text.decode content) = .ok i →
      i.Distinct ∧ ∀ name f, i.function? name = some f ↔ f ∈ i.functions ∧ f.name = name := by
  refine ⟨fun i => judged_of_stands i.stands_toJson,
    fun ds => judged_of_stands (stands_declaration ds), fun content i h => ?_⟩
  have hdistinct : i.Distinct := distinct_of_parse h
  exact ⟨hdistinct, fun _ _ => function?_eq_some hdistinct⟩

/-- Two functions, the second of which leaves out its parameters. -/
def sumAndPing : List Declaration := [⟨"sum", some ["a", "b"]⟩, ⟨"ping", none⟩]

theorem judges_sumAndPing :
    parse (Text.decode (Text.bytes (declaration sumAndPing).compact)) = .ok (declared sumAndPing) ∧
      (declared sumAndPing).Distinct ∧
        ∀ name f, (declared sumAndPing).function? name = some f ↔
          f ∈ (declared sumAndPing).functions ∧ f.name = name := by
  have hdistinct : (declared sumAndPing).Distinct := ⟨by decide, by decide⟩
  have haccepted := (judges.2.1 sumAndPing).accepted.2 hdistinct
  exact ⟨haccepted, judges.2.2 _ _ haccepted⟩

end Interface

end ModuleHost
