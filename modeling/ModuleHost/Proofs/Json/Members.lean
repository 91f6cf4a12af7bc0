import ModuleHost.Proofs.Json.Parsed
import ModuleHost.Proofs.Json.Scalar

/-!
# Members as they are written

A text may give an object several members of one key, in any order. The last one of a key counts.

* `Json.members` — the members of a text that is an object, all of them, as they are written;
* `Json.last?` — the last member of a key;
* **`Json.parse_eq_fields`**: a text is read as an object exactly if it has members, and as theirs;
* `Json.get?_ofList`, `Json.last?_eq_none` — the member of a key is the last one that is written.
-/

namespace ModuleHost

namespace Json

open ModuleHost.Text

/-! ## The last member of a key -/

/-- The last of the members of a key. -/
def last? (key : String) (members : List (String × Json)) : Option Json :=
  members.reverse.lookup key

theorem last?_append_singleton (key : String) (ms : List (String × Json)) (e : String × Json) :
    last? key (ms ++ [e]) = if key = e.1 then some e.2 else last? key ms := by
  rw [last?, List.reverse_append, List.reverse_singleton, List.singleton_append, List.lookup_cons]
  by_cases h : key = e.1
  · simp [h]
  · rw [if_neg h, beq_eq_false_iff_ne.2 h, last?]

theorem get?_ofList (key : String) (ms : List (String × Json)) :
    Fields.get? key (Fields.ofList ms) = last? key ms := by
  induction ms using List.reverseRecOn with
  | nil => rfl
  | append_singleton ms e ih =>
    rw [Fields.ofList_append_singleton, Fields.get?_insert, ih, last?_append_singleton]

theorem last?_eq_none {key : String} {ms : List (String × Json)} :
    last? key ms = none ↔ key ∉ ms.map (·.1) := by
  rw [last?, List.lookup_eq_none_iff]
  constructor
  · intro h hmem
    obtain ⟨e, he, rfl⟩ := List.mem_map.1 hmem
    simpa using h e (List.mem_reverse.2 he)
  · intro h e he
    have hne : key ≠ e.1 := fun heq => h (List.mem_map.2 ⟨e, List.mem_reverse.1 he, heq.symm⟩)
    simpa using hne

/-! ## Objects -/

namespace Reader

/-- Takes an object and gives its members as they are written. -/
def members (depth : Nat) : Reader (List (String × Json)) := do
  if (← peek) = .char '{' then
    discard next
    let entries ← objectBody (fun k es => .ok ((fun j => (k, j) :: es) <$> value depth)) []
    return entries.reverse
  else throw .mismatch

variable {α : Type} {s s' : Text}

theorem whole_eq_ok {r : Reader α} {t : Text} {a : α} :
    r.whole t = .ok a ↔ ∃ rest, r.run t = .ok (a, rest) ∧ rest.dropWhile isBlankPiece = [] := by
  unfold whole
  cases r.run t with
  | error e => exact ⟨nofun, nofun⟩
  | ok p =>
    change (if (p.2.dropWhile isBlankPiece).isEmpty then pure p.1 else throw ReadError.malformed) =
      Except.ok a ↔ _
    by_cases h : p.2.dropWhile isBlankPiece = []
    · rw [if_pos (List.isEmpty_iff.2 h)]
      constructor
      · intro ha
        cases ha
        exact ⟨p.2, rfl, h⟩
      · rintro ⟨rest, hrun, -⟩
        cases hrun
        rfl
    · rw [if_neg fun hempty => h (List.isEmpty_iff.1 hempty)]
      refine ⟨nofun, ?_⟩
      rintro ⟨rest, hrun, hrest⟩
      cases hrun
      exact absurd hrest h

theorem run_value_of_curly (h : peek.run s = .ok (.char '{', s')) (depth : Nat) :
    (value (depth + 1)).run s = (object <$> members depth).run s := by
  unfold value members
  rw [map_bind, run_bind_ok h, run_bind_ok h]
  simp [digit?]

theorem run_value_ne_fields {p : Piece} (h : peek.run s = .ok (p, s')) (hp : p ≠ .char '{')
    (depth : Nat) (entries : List (String × Json)) (rest : Text) :
    (value depth).run s ≠ .ok (.fields entries, rest) := by
  intro hrun
  unfold value at hrun
  rw [run_bind_ok h] at hrun
  have gives : ∀ x : Reader Json, Gives x (fun j => ∀ es, j ≠ .fields es) →
      x.run s' ≠ .ok (.fields entries, rest) :=
    fun x hx hr => hx s' _ _ hr entries rfl
  refine gives _ ?_ hrun
  split_ifs
  · exact .after fun _ => .after fun _ => .of_pure (by simp)
  · exact .after fun _ => .of_pure (by simp)
  · refine .after fun _ => ?_
    cases depth with
    | zero => exact .of_throw _
    | succ depth => exact .after fun _ => .of_pure (by simp)
  · exact .after fun _ => .of_pure (by simp)
  · exact .after fun _ => .of_pure (by simp)
  · exact .after fun _ => .of_pure (by simp)
  · exact .of_throw _

theorem run_members_eq_ok {depth : Nat} {entries : List (String × Json)} {rest : Text} :
    (value (depth + 1)).run s = .ok (.fields entries, rest) ↔
      ∃ ms, (members depth).run s = .ok (ms, rest) ∧ entries = Fields.ofList ms := by
  cases hpeek : peek.run s with
  | error e =>
    have hvalue : (value (depth + 1)).run s = .error e := by
      unfold value
      rw [StateT.run_bind, hpeek]
      rfl
    have hmembers : (members depth).run s = .error e := by
      unfold members
      rw [StateT.run_bind, hpeek]
      rfl
    rw [hvalue, hmembers]
    exact iff_of_false (by simp) (by simp)
  | ok front =>
    obtain ⟨p, s'⟩ := front
    by_cases hp : p = .char '{'
    · subst hp
      rw [run_value_of_curly hpeek, StateT.run_map]
      cases (members depth).run s with
      | error e => exact iff_of_false (fun h => by cases h) (by simp)
      | ok taken =>
        constructor
        · intro h
          cases h
          exact ⟨_, rfl, rfl⟩
        · rintro ⟨ms, hms, rfl⟩
          cases hms
          rfl
    · have hmembers : (members depth).run s = .error .mismatch := by
        unfold members
        rw [run_bind_ok hpeek, if_neg hp]
        rfl
      rw [hmembers]
      exact iff_of_false (run_value_ne_fields hpeek hp _ entries rest) (by simp)

end Reader

/-- The members of a text that is an object, as they are written. -/
def members (raw : String) : Except ReadError (List (String × Json)) :=
  (Reader.members (Reader.maxDepth - 1)).whole (Text.ofString raw)

/-- **A text is read as an object** exactly if it has members, and then as the object of these. -/
theorem parse_eq_fields {raw : String} {entries : List (String × Json)} :
    parse raw = .ok (.fields entries) ↔
      ∃ ms, members raw = .ok ms ∧ entries = Fields.ofList ms := by
  have hdepth : Reader.maxDepth = (Reader.maxDepth - 1) + 1 := rfl
  simp only [parse, parseText, members, Reader.whole_eq_ok]
  rw [hdepth]
  simp only [Reader.run_members_eq_ok]
  constructor
  · rintro ⟨rest, ⟨ms, hms, rfl⟩, hrest⟩
    exact ⟨ms, ⟨rest, hms, hrest⟩, rfl⟩
  · rintro ⟨ms, ⟨rest, hms, hrest⟩, rfl⟩
    exact ⟨rest, ⟨ms, hms, rfl⟩, hrest⟩

theorem parse_of_members {raw : String} {ms : List (String × Json)} (h : members raw = .ok ms) :
    parse raw = .ok (object ms) := parse_eq_fields.2 ⟨ms, h, rfl⟩

end Json

end ModuleHost
