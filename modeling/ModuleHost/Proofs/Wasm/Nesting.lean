import ModuleHost.Proofs.Wasm.Framing

/-!
# Framed files

A file is well framed if it is a header and the sections of a module or of a component. In a
component some sections are well-framed files again.

* `ComponentForm`, `Header` — the outer form of sections of a component; how files begin;
* `Content`, `FramedAs`, `WellFramed` — the sections behind a header; the sections of a file;
* `held_eq_some` — a file inside a component;
* **`content_of_run`**, **`Content.runs`**: what is taken behind a header is content, and content is
  taken;
* **`wellFramed_iff`**: the sections that are taken from a file are those that it is framed as;
* `FramedAs.rest`, `WellFramed.unique` — what follows the sections of a module are sections, or the
  file is not framed; a file is framed in one way.
-/

namespace ModuleHost.Wasm

open Scan (Reads)

/-! ## Files -/

/-- What starts a component: a function, its arguments and the number of its results. -/
def Starts (payload : Bytes) : Prop :=
  ∃ (f n : Nat) (arguments : List Nat) (function row results : Bytes),
    payload = function ++ (row ++ results) ∧ Numeral 32 f function ∧
      Listed (Numeral 32) arguments row ∧ arguments.length ≤ Section.maxStart ∧
      Numeral 32 n results ∧ n ≤ Section.maxStart

/-- The outer form that the id of a section asks of its payload in a component, if it is no file
again: what starts the component, a count at the front of lists, and anything for ids that are not
known. -/
def ComponentForm (id : UInt8) (payload : Bytes) : Prop :=
  if id = 9 then Starts payload
  else if id ≤ 11 then Counted payload
  else True

/-- The first bytes of a file. -/
def magic : Bytes := [0x00, 0x61, 0x73, 0x6D]

/-- The upper half of the version word. -/
def Encoding.mark : Encoding → Bytes
  | .module => [0, 0]
  | .component => [1, 0]

/-- The bytes of a header, of whatever version. -/
def Header (e : Encoding) (bytes : Bytes) : Prop :=
  ∃ a b, bytes = magic ++ [a, b] ++ e.mark

/-- A part that should have `n` bytes and behind which `rest` follows. It is cut short only where
the bytes end, and by no more than `spare`. -/
structure Cut (n spare : Nat) (part rest : Bytes) : Prop where
  le : part.length ≤ n
  within : n ≤ part.length + spare
  whole : rest ≠ [] → part.length = n

/-- The sections behind a header, in a file that may be cut short by `spare` bytes. Those of the
files in a component take their place; of its own, custom sections are seen. -/
inductive Content : Encoding → Nat → List Chunk → Bytes → Prop
  | module {spare : Nat} {chunks : List Chunk} {bytes : Bytes} :
      Row Chunk.Spelled chunks bytes → Content .module spare chunks bytes
  | done {spare : Nat} : Content .component spare [] []
  | custom {spare : Nat} {name : String} {content front back : Bytes} {chunks : List Chunk} :
      (Chunk.custom name content).Spelled front → Content .component spare chunks back →
        Content .component spare (.custom name content :: chunks) (front ++ back)
  | plain {spare : Nat} {id : UInt8} {payload sized back : Bytes} {chunks : List Chunk} :
      id ≠ 0 → ¬(id = 1 ∨ id = 4) → id < 0x80 → ComponentForm id payload → Sized payload sized →
        Content .component spare chunks back → Content .component spare chunks (id :: sized ++ back)
  /-- A file in a component. -/
  | nested {spare n : Nat} {id : UInt8} {e : Encoding} {length head body back : Bytes}
      {inner chunks : List Chunk} :
      id = 1 ∨ id = 4 → Numeral 32 n length → n ≤ maxFile → Cut n spare (head ++ body) back →
        Header e head → Content e (n - (head ++ body).length) inner body →
        Content .component spare chunks back →
          Content .component spare (inner ++ chunks) (id :: (length ++ (head ++ body ++ back)))

/-- A file of an encoding is these sections behind its header. -/
def FramedAs (e : Encoding) (chunks : List Chunk) (bytes : Bytes) : Prop :=
  ∃ head body, bytes = head ++ body ∧ Header e head ∧ Content e maxFile chunks body

/-- A file is these sections behind its header. -/
def WellFramed (chunks : List Chunk) (bytes : Bytes) : Prop := ∃ e, FramedAs e chunks bytes

/-! ## One section of a component -/

namespace Section

theorem reads_componentStart : Reads componentStart fun _ taken => Starts taken := by
  unfold componentStart
  refine (Scan.reads_bind Scan.reads_u32 fun _ => Scan.reads_bind
    (Scan.reads_vector Scan.reads_u32) fun arguments => Scan.reads_guarded fun _ =>
      Scan.reads_bind Scan.reads_u32 fun n => Scan.reads_guard (n ≤ maxStart)).congr
        fun _ taken => ?_
  constructor
  · rintro ⟨f, function, _, rfl, hf, arguments, row, _, rfl, hrow, hmax, n, results, _, rfl, hn,
      hle, rfl⟩
    rw [List.append_nil]
    exact ⟨f, n, arguments, function, row, results, rfl, hf, hrow, hmax, hn, hle⟩
  · rintro ⟨f, n, arguments, function, row, results, rfl, hf, hrow, hmax, hn, hle⟩
    exact ⟨f, function, _, rfl, hf, arguments, row, _, rfl, hrow, hmax, n, results, [],
      (List.append_nil _).symm, hn, hle, rfl⟩

theorem fitsComponent_iff {s : Section} (h : s.id ≠ 0) :
    s.fitsComponent = true ↔ ComponentForm s.id s.payload := by
  have hstart : (Scan.all? componentStart s.payload).isSome = true ↔ Starts s.payload := by
    rw [Option.isSome_iff_exists]
    simp only [reads_componentStart.all?_eq_some, exists_const]
  rw [fitsComponent, if_neg h, ComponentForm]
  split
  · exact hstart
  split
  · exact counted_iff
  · simp

theorem fitsComponent_custom (s : Section) (h : s.id = 0) :
    s.fitsComponent = s.custom?.isSome := by
  rw [fitsComponent, if_pos h]

end Section

/-! ## Headers -/

theorem reads_version (word : Bytes) : Reads (match word with
    | [a, b, 0, 0] => return (a.toNat + 256 * b.toNat, .module)
    | [a, b, 1, 0] => return (a.toNat + 256 * b.toNat, .component)
    | _ => failure : Scan (Nat × Encoding)) fun r taken =>
      taken = [] ∧ ∃ a b, word = [a, b] ++ r.2.mark ∧ r.1 = a.toNat + 256 * b.toNat := by
  split
  · next a b =>
    refine (Scan.reads_pure _).congr fun r taken => ?_
    constructor
    · rintro ⟨rfl, rfl⟩
      exact ⟨rfl, a, b, rfl, rfl⟩
    · rintro ⟨rfl, a', b', hword, hversion⟩
      obtain ⟨version, e⟩ := r
      cases e <;> cases hword
      exact ⟨congrArg (·, Encoding.module) hversion, rfl⟩
  · next a b =>
    refine (Scan.reads_pure _).congr fun r taken => ?_
    constructor
    · rintro ⟨rfl, rfl⟩
      exact ⟨rfl, a, b, rfl, rfl⟩
    · rintro ⟨rfl, a', b', hword, hversion⟩
      obtain ⟨version, e⟩ := r
      cases e <;> cases hword
      exact ⟨congrArg (·, Encoding.component) hversion, rfl⟩
  · next hmodule hcomponent =>
    refine Scan.reads_failure.congr fun r taken => ?_
    rw [false_iff]
    rintro ⟨-, a, b, hword, -⟩
    obtain ⟨version, e⟩ := r
    cases e with
    | module => exact hmodule a b hword
    | component => exact hcomponent a b hword

theorem reads_header : Reads header fun r taken => ∃ a b,
    taken = magic ++ [a, b] ++ r.2.mark ∧ r.1 = a.toNat + 256 * b.toNat := by
  unfold header
  refine (Scan.reads_bind (Scan.reads_take 4) fun first => Scan.reads_guarded fun _ =>
    Scan.reads_bind (Scan.reads_take 4) reads_version).congr fun r taken => ?_
  constructor
  · rintro ⟨_, front, _, rfl, ⟨rfl, -⟩, rfl, _, word, _, rfl, ⟨rfl, -⟩, rfl, a, b, rfl, hversion⟩
    exact ⟨a, b, by simp [magic], hversion⟩
  · rintro ⟨a, b, rfl, hversion⟩
    have hlength : ([a, b] ++ r.2.mark).length = 4 := by cases r.2 <;> rfl
    exact ⟨magic, magic, _, List.append_assoc _ _ _, ⟨rfl, rfl⟩, rfl, _, _, [],
      (List.append_nil _).symm, ⟨rfl, hlength⟩, rfl, a, b, rfl, hversion⟩

theorem header_of_run {version : Nat} {e : Encoding} {s rest : Bytes}
    (h : header.run s = some ((version, e), rest)) : ∃ head, s = head ++ rest ∧ Header e head := by
  obtain ⟨head, hs, a, b, hhead, -⟩ := (reads_header _ _ _).1 h
  exact ⟨head, hs, a, b, hhead⟩

theorem Header.runs {e : Encoding} {head : Bytes} (h : Header e head) (rest : Bytes) :
    ∃ version, header.run (head ++ rest) = some ((version, e), rest) := by
  obtain ⟨a, b, rfl⟩ := h
  exact ⟨_, (reads_header _ _ _).2 ⟨_, rfl, a, b, rfl, rfl⟩⟩

/-! ## Files inside a component -/

/-- Takes the sections behind a header. -/
def contentFrom (fuel spare : Nat) : Encoding → Scan (List Section)
  | .module => framedFrom fuel
  | .component => componentFrom fuel spare

theorem file_eq_some {fuel spare : Nat} {s rest : Bytes} {version : Nat} {e : Encoding}
    {sections : List Section} :
    (file (framedFrom fuel) (componentFrom fuel spare)).run s =
        some (((version, e), sections), rest) ↔
      ∃ row, header.run s = some ((version, e), row) ∧
        (contentFrom fuel spare e).run row = some (sections, rest) := by
  have hrun : (file (framedFrom fuel) (componentFrom fuel spare)).run s =
      (header.run s).bind fun r => ((contentFrom fuel spare r.1.2).run r.2).bind fun q =>
        some ((r.1, q.1), q.2) := by
    unfold file
    rw [StateT.run_bind]
    refine congrArg _ (funext fun r => ?_)
    obtain ⟨⟨version, e⟩, row⟩ := r
    cases e <;> rfl
  rw [hrun, Option.bind_eq_some_iff]
  constructor
  · rintro ⟨⟨head, row⟩, hhead, h⟩
    obtain ⟨⟨ss, rest'⟩, hss, h⟩ := Option.bind_eq_some_iff.1 h
    cases h
    exact ⟨row, hhead, hss⟩
  · rintro ⟨row, hhead, hss⟩
    exact ⟨_, hhead, by rw [hss]; rfl⟩

theorem held_run {α : Type} (scan : Nat → Scan α) (spare : Nat) (s : Bytes) :
    (held scan spare).run s = (Scan.byte.run s).bind fun r => (Scan.u32.run r.2).bind fun q =>
      if q.1 ≤ maxFile ∧ q.1 - q.2.length ≤ spare then
        (Scan.all? (scan (q.1 - q.2.length)) (q.2.take q.1)).map (·, q.2.drop q.1)
      else none := by
  unfold held
  rw [StateT.run_bind]
  refine congrArg _ (funext fun r => ?_)
  rw [StateT.run_bind]
  refine congrArg _ (funext fun ⟨n, left⟩ => ?_)
  change ((guard (n ≤ maxFile ∧ n - left.length ≤ spare) : Scan Unit) >>= fun _ => _).run left = _
  dsimp only
  by_cases h : n ≤ maxFile ∧ n - left.length ≤ spare
  · rw [Scan.guard_of h, pure_bind, if_pos h]
    cases Scan.all? (scan (n - left.length)) (left.take n) <;> rfl
  · rw [Scan.guard_of_not h, if_neg h]
    rfl

theorem Cut.take_drop {n spare : Nat} {part rest : Bytes} (h : Cut n spare part rest) :
    (part ++ rest).take n = part ∧ (part ++ rest).drop n = rest := by
  by_cases hrest : rest = []
  · subst hrest
    rw [List.append_nil]
    exact ⟨List.take_of_length_le h.le, List.drop_of_length_le h.le⟩
  · exact ⟨List.take_left' (h.whole hrest), List.drop_left' (h.whole hrest)⟩

theorem Cut.sub_length {n spare : Nat} {part rest : Bytes} (h : Cut n spare part rest) :
    n - (part ++ rest).length = n - part.length := by
  by_cases hrest : rest = []
  · rw [hrest, List.append_nil]
  · have := h.whole hrest
    rw [List.length_append]
    omega

theorem cut_take {n spare : Nat} {left : Bytes} (h : n - left.length ≤ spare) :
    Cut n spare (left.take n) (left.drop n) where
  le := List.length_take_le n left
  within := by
    rw [List.length_take]
    omega
  whole hrest := by
    rw [ne_eq, List.drop_eq_nil_iff] at hrest
    exact List.length_take_of_le (by omega)

/-- A section that is a file again: its length is there, and its bytes as far as there are any. -/
theorem held_eq_some {α : Type} {scan : Nat → Scan α} {spare : Nat} {s rest : Bytes} {a : α} :
    (held scan spare).run s = some (a, rest) ↔
      ∃ id n length part, s = id :: (length ++ (part ++ rest)) ∧ Numeral 32 n length ∧
        n ≤ maxFile ∧ Cut n spare part rest ∧ Scan.Spells (scan (n - part.length)) a part := by
  rw [held_run]
  constructor
  · intro h
    obtain ⟨⟨id, s₁⟩, hid, h⟩ := Option.bind_eq_some_iff.1 h
    obtain ⟨⟨n, left⟩, hn, h⟩ := Option.bind_eq_some_iff.1 h
    obtain ⟨⟨hmax, hspare⟩, h⟩ := Option.ite_none_right_eq_some.1 h
    obtain ⟨a', ha, h⟩ := Option.map_eq_some_iff.1 h
    cases h
    obtain ⟨_, rfl, rfl⟩ := (Scan.reads_byte _ _ _).1 hid
    obtain ⟨length, rfl, hlength⟩ := (Scan.reads_u32 _ _ _).1 hn
    have cut : Cut n spare (left.take n) (left.drop n) := cut_take hspare
    refine ⟨id, n, length, left.take n, ?_, hlength, hmax, cut, ?_⟩
    · rw [List.take_append_drop]
      rfl
    · rw [← cut.sub_length, List.take_append_drop]
      exact Scan.all?_eq_some.1 ha
  · rintro ⟨id, n, length, part, rfl, hlength, hmax, cut, ha⟩
    have hid : Scan.byte.run (id :: (length ++ (part ++ rest))) =
        some (id, length ++ (part ++ rest)) := rfl
    have hn : Scan.u32.run (length ++ (part ++ rest)) = some (n, part ++ rest) :=
      (Scan.reads_u32 _ _ _).2 ⟨length, rfl, hlength⟩
    have hspare : n - part.length ≤ spare := Nat.sub_le_iff_le_add'.2 cut.within
    rw [hid, Option.bind_some, hn, Option.bind_some, cut.sub_length, if_pos ⟨hmax, hspare⟩,
      cut.take_drop.1, cut.take_drop.2, Scan.all?_eq_some.2 ha, Option.map_some]

theorem componentFrom_of_held {fuel spare : Nat} {id : UInt8} {s : Bytes} (hid : id = 1 ∨ id = 4) :
    (componentFrom (fuel + 1) spare).run (id :: s) =
      ((held (fun spare => file (framedFrom fuel) (componentFrom fuel spare)) spare).run
        (id :: s)).bind fun r => ((componentFrom fuel spare).run r.2).bind fun q =>
          some (r.1.2 ++ q.1, q.2) := by
  change StateT.run (if id = 1 ∨ id = 4 then _ else _) _ = _
  rw [if_pos hid]
  rfl

theorem componentFrom_of_framed {fuel spare : Nat} {id : UInt8} {s : Bytes}
    (hid : ¬(id = 1 ∨ id = 4)) :
    (componentFrom (fuel + 1) spare).run (id :: s) =
      ((framedBy Section.fitsComponent).run (id :: s)).bind fun r =>
        ((componentFrom fuel spare).run r.2).bind fun q =>
          some ([r.1].filter (·.id = 0) ++ q.1, q.2) := by
  change StateT.run (if id = 1 ∨ id = 4 then _ else _) _ = _
  rw [if_neg hid]
  rfl

theorem componentFrom_nil {fuel spare : Nat} : (componentFrom fuel spare).run [] = some ([], []) := by
  cases fuel <;> rfl

/-- A section of a component that is no file: it is kept if it is custom. -/
theorem Content.framed {spare : Nat} {x : Section} {front back : Bytes} {chunks : List Chunk}
    (hx : x.SpelledBy Section.fitsComponent front) (hid : ¬(x.id = 1 ∨ x.id = 4))
    (content : Content .component spare chunks back) :
    Content .component spare (([x].filter (·.id = 0)).map Section.chunk ++ chunks)
      (front ++ back) := by
  by_cases hcustom : x.id = 0
  · obtain ⟨name, text, hchunk, hspelled⟩ :=
      Section.exists_custom Section.fitsComponent_custom hcustom hx
    have hkept : ([x].filter (·.id = 0)).map Section.chunk = [.custom name text] := by
      simp [hcustom, hchunk]
    rw [hkept]
    exact .custom hspelled content
  · obtain ⟨hlt, hform, sized, rfl, hsized⟩ := hx
    have hdropped : ([x].filter (·.id = 0)).map Section.chunk = [] := by simp [hcustom]
    rw [hdropped]
    exact .plain hcustom hid hlt ((Section.fitsComponent_iff hcustom).1 hform) hsized content

/-- **What is taken behind a header is content.** -/
theorem content_of_run {fuel : Nat} {e : Encoding} {spare : Nat} {s rest : Bytes}
    {sections : List Section} (h : (contentFrom fuel spare e).run s = some (sections, rest)) :
    rest = [] ∧ Content e spare (sections.map Section.chunk) s := by
  induction fuel generalizing e spare s rest sections with
  | zero =>
    cases e with
    | module =>
      obtain ⟨hrest, -, hrow⟩ := framedFrom_eq_some.1 h
      exact ⟨hrest, .module (row_chunks.2 ⟨sections, rfl, hrow⟩)⟩
    | component =>
      cases s with
      | nil =>
        cases h
        exact ⟨rfl, .done⟩
      | cons id s => cases h
  | succ fuel ih =>
    cases e with
    | module =>
      obtain ⟨hrest, -, hrow⟩ := framedFrom_eq_some.1 h
      exact ⟨hrest, .module (row_chunks.2 ⟨sections, rfl, hrow⟩)⟩
    | component =>
      change (componentFrom (fuel + 1) spare).run s = _ at h
      cases s with
      | nil =>
        cases h
        exact ⟨rfl, .done⟩
      | cons id s =>
        by_cases hid : id = 1 ∨ id = 4
        · rw [componentFrom_of_held hid, Option.bind_eq_some_iff] at h
          obtain ⟨⟨⟨⟨version, e⟩, inner⟩, left⟩, hinner, h⟩ := h
          obtain ⟨⟨back, rest'⟩, hback, h⟩ := Option.bind_eq_some_iff.1 h
          cases h
          obtain ⟨hrest, content⟩ := ih (e := .component) hback
          obtain ⟨_, n, length, part, hs, hlength, hmax, cut, hpart⟩ := held_eq_some.1 hinner
          cases hs
          obtain ⟨body, hhead, hbody⟩ := file_eq_some.1 hpart
          obtain ⟨head, rfl, hheader⟩ := header_of_run hhead
          rw [List.map_append]
          exact ⟨hrest, .nested hid hlength hmax cut hheader (ih hbody).2 content⟩
        · rw [componentFrom_of_framed hid, Option.bind_eq_some_iff] at h
          obtain ⟨⟨x, left⟩, hx, h⟩ := h
          obtain ⟨⟨back, rest'⟩, hback, h⟩ := Option.bind_eq_some_iff.1 h
          cases h
          obtain ⟨hrest, content⟩ := ih (e := .component) hback
          obtain ⟨front, hs, hfront⟩ := (Section.reads_framedBy _ _ _ _).1 hx
          have hfirst : x.id = id := by
            obtain ⟨-, -, sized, rfl, -⟩ := hfront
            cases hs
            rfl
          rw [hs, List.map_append]
          exact ⟨hrest, content.framed hfront (hfirst ▸ hid)⟩

theorem run_of_framed {fuel spare : Nat} {x : Section} {front back : Bytes}
    {sections : List Section} (hx : x.SpelledBy Section.fitsComponent front)
    (hid : ¬(x.id = 1 ∨ x.id = 4))
    (hback : (componentFrom fuel spare).run back = some (sections, [])) :
    (componentFrom (fuel + 1) spare).run (front ++ back) =
      some ([x].filter (·.id = 0) ++ sections, []) := by
  have hframed : (framedBy Section.fitsComponent).run (front ++ back) = some (x, back) :=
    (Section.reads_framedBy _ _ _ _).2 ⟨front, rfl, hx⟩
  obtain ⟨-, -, sized, rfl, -⟩ := hx
  rw [List.cons_append] at hframed ⊢
  rw [componentFrom_of_framed hid, hframed, Option.bind_some, hback, Option.bind_some]

/-- Fuel for bytes is enough for those behind the first one. -/
theorem exists_fuel {id : UInt8} {s : Bytes} {fuel : Nat} (h : (id :: s).length ≤ fuel) :
    ∃ n, fuel = n + 1 ∧ s.length ≤ n := by
  cases fuel with
  | zero => cases h
  | succ n => exact ⟨n, rfl, Nat.le_of_succ_le_succ h⟩

/-- **Content is taken**, if the fuel is enough for its bytes. -/
theorem Content.runs {e : Encoding} {spare : Nat} {chunks : List Chunk} {s : Bytes}
    (h : Content e spare chunks s) : ∀ fuel, s.length ≤ fuel →
      ∃ sections, sections.map Section.chunk = chunks ∧
        (contentFrom fuel spare e).run s = some (sections, []) := by
  induction h with
  | module hrow =>
    intro fuel hfuel
    obtain ⟨sections, hchunks, hrow⟩ := row_chunks.1 hrow
    exact ⟨sections, hchunks,
      framedFrom_eq_some.2 ⟨rfl, Nat.le_trans (length_le_of_row hrow) hfuel, hrow⟩⟩
  | done => exact fun _ _ => ⟨[], rfl, componentFrom_nil⟩
  | @custom spare name text front back chunks hspelled _ ih =>
    intro fuel hfuel
    obtain ⟨x, hcustom, hx⟩ := (Section.spelled_custom Section.fitsComponent_custom).1 hspelled
    obtain ⟨hid, -⟩ := Section.custom?_eq_some.1 hcustom
    have hfront := hx
    obtain ⟨-, -, sized, rfl, -⟩ := hfront
    obtain ⟨fuel, rfl, (hback : (sized ++ back).length ≤ _)⟩ := exists_fuel hfuel
    rw [List.length_append] at hback
    obtain ⟨sections, rfl, hsections⟩ := ih fuel (Nat.le_of_add_left_le hback)
    have hkept : ([x].filter (·.id = 0)).map Section.chunk = [.custom name text] := by
      simp [hid, Section.chunk, hcustom]
    exact ⟨_, by rw [List.map_append, hkept]; rfl, run_of_framed hx (by simp [hid]) hsections⟩
  | @plain spare id payload sized back chunks hid hother hlt hform hsized _ ih =>
    intro fuel hfuel
    obtain ⟨fuel, rfl, (hback : (sized ++ back).length ≤ _)⟩ := exists_fuel hfuel
    rw [List.length_append] at hback
    obtain ⟨sections, rfl, hsections⟩ := ih fuel (Nat.le_of_add_left_le hback)
    have hx : Section.SpelledBy Section.fitsComponent ⟨id, payload⟩ (id :: sized) :=
      ⟨hlt, (Section.fitsComponent_iff (s := ⟨id, payload⟩) hid).2 hform, sized, rfl, hsized⟩
    have hdropped : ([(⟨id, payload⟩ : Section)].filter (·.id = 0)) = [] := by simp [hid]
    have hrun := run_of_framed hx hother hsections
    rw [hdropped] at hrun
    exact ⟨sections, rfl, hrun⟩
  | @nested spare n id e length head body back inner chunks hid hlength hmax cut hheader _ _ ihInner
      ihBack =>
    intro fuel hfuel
    obtain ⟨fuel, rfl, hparts⟩ := exists_fuel hfuel
    rw [List.length_append, List.length_append, List.length_append] at hparts
    obtain ⟨innerSections, rfl, hinner⟩ := ihInner fuel (by omega)
    obtain ⟨sections, rfl, hsections⟩ := ihBack fuel (by omega)
    obtain ⟨version, hhead⟩ := hheader.runs body
    have hheld : (held (fun spare => file (framedFrom fuel) (componentFrom fuel spare)) spare).run
        (id :: (length ++ (head ++ body ++ back))) = some (((version, e), innerSections), back) :=
      held_eq_some.2 ⟨id, n, length, head ++ body, rfl, hlength, hmax, cut,
        file_eq_some.2 ⟨body, hhead, hinner⟩⟩
    refine ⟨innerSections ++ sections, List.map_append, ?_⟩
    change (componentFrom (fuel + 1) spare).run _ = _
    change (componentFrom fuel spare).run back = _ at hsections
    rw [componentFrom_of_held hid, hheld, Option.bind_some, hsections, Option.bind_some]

/-! ## Whole files -/

theorem sections?_eq_some {bytes : Bytes} {sections : List Section} :
    sections? bytes = some sections ↔ ∃ version e, file? bytes = some ((version, e), sections) := by
  rw [sections?, Option.map_eq_some_iff]
  constructor
  · rintro ⟨⟨⟨version, e⟩, _⟩, hfile, rfl⟩
    exact ⟨version, e, hfile⟩
  · rintro ⟨version, e, hfile⟩
    exact ⟨_, hfile, rfl⟩

theorem file?_eq_some {bytes : Bytes} {version : Nat} {e : Encoding} {sections : List Section} :
    file? bytes = some ((version, e), sections) ↔ ∃ row, header.run bytes = some ((version, e), row) ∧
      (contentFrom bytes.length maxFile e).run row = some (sections, []) := by
  rw [file?, Scan.all?_eq_some, Scan.Spells, file_eq_some]

/-- **The sections that are taken from a file are those that it is framed as.** -/
theorem framedAs_iff {e : Encoding} {chunks : List Chunk} {bytes : Bytes} :
    FramedAs e chunks bytes ↔ ∃ version sections, file? bytes = some ((version, e), sections) ∧
      sections.map Section.chunk = chunks := by
  constructor
  · rintro ⟨head, body, rfl, hheader, content⟩
    obtain ⟨version, hhead⟩ := hheader.runs body
    have hlength : body.length ≤ (head ++ body).length := by
      rw [List.length_append]
      exact Nat.le_add_left _ _
    obtain ⟨sections, hchunks, hsections⟩ := content.runs _ hlength
    exact ⟨version, sections, file?_eq_some.2 ⟨body, hhead, hsections⟩, hchunks⟩
  · rintro ⟨version, sections, hfile, rfl⟩
    obtain ⟨body, hhead, hsections⟩ := file?_eq_some.1 hfile
    obtain ⟨head, rfl, hheader⟩ := header_of_run hhead
    exact ⟨head, body, rfl, hheader, (content_of_run hsections).2⟩

theorem wellFramed_iff {chunks : List Chunk} {bytes : Bytes} :
    WellFramed chunks bytes ↔
      ∃ sections, sections? bytes = some sections ∧ sections.map Section.chunk = chunks := by
  constructor
  · rintro ⟨e, framed⟩
    obtain ⟨version, sections, hfile, hchunks⟩ := framedAs_iff.1 framed
    exact ⟨sections, sections?_eq_some.2 ⟨version, e, hfile⟩, hchunks⟩
  · rintro ⟨sections, hsections, hchunks⟩
    obtain ⟨version, e, hfile⟩ := sections?_eq_some.1 hsections
    exact ⟨e, framedAs_iff.2 ⟨version, sections, hfile, hchunks⟩⟩

theorem row_of_wellFramed {head body : Bytes} {chunks : List Chunk} (hheader : Header .module head)
    (h : WellFramed chunks (head ++ body)) : Row Chunk.Spelled chunks body := by
  obtain ⟨version, hhead⟩ := hheader.runs body
  obtain ⟨e, head', body', hbytes, hheader', content⟩ := h
  obtain ⟨version', hhead'⟩ := hheader'.runs body'
  rw [← hbytes, hhead] at hhead'
  cases hhead'
  cases content with
  | module hrow => exact hrow

/-- What follows the sections of a module in a well-framed file are sections. -/
theorem FramedAs.rest {chunks chunks' : List Chunk} {bytes tail : Bytes}
    (h : FramedAs .module chunks bytes) (h' : WellFramed chunks' (bytes ++ tail)) :
    ∃ more, chunks' = chunks ++ more ∧ Row Chunk.Spelled more tail := by
  obtain ⟨head, body, rfl, hheader, content⟩ := h
  rw [List.append_assoc] at h'
  have hrow' := row_of_wellFramed hheader h'
  cases content with
  | module hrow =>
    obtain ⟨sections, rfl, hsections⟩ := row_chunks.1 hrow
    obtain ⟨sections', rfl, hsections'⟩ := row_chunks.1 hrow'
    obtain ⟨more, rfl, hmore⟩ := row_rest hsections hsections'
    exact ⟨more.map Section.chunk, List.map_append, row_chunks.2 ⟨more, rfl, hmore⟩⟩

/-- A file is framed in one way. -/
theorem WellFramed.unique {chunks chunks' : List Chunk} {bytes : Bytes}
    (h : WellFramed chunks bytes) (h' : WellFramed chunks' bytes) : chunks = chunks' := by
  obtain ⟨sections, hsections, rfl⟩ := wellFramed_iff.1 h
  obtain ⟨sections', hsections', rfl⟩ := wellFramed_iff.1 h'
  rw [hsections, Option.some.injEq] at hsections'
  rw [hsections']

end ModuleHost.Wasm
