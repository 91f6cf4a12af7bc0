import ModuleHost.Proofs.Json.Numeral

/-!
# Reading written containers

What the readers of items and members give on a written array or object, whatever reads the
values in it: that of the first value that is refused, or everything.

* `readOn` — a result together with the text behind it;
* `Opens` — text that starts a value;
* **`run_arrayBody`**, **`run_objectBody`**: a written array, a written object is read item by item.
-/

namespace ModuleHost.Json.Reader

open ModuleHost.Text

variable {α β σ : Type} {s rest : Text}

/-- The result of a reader that takes everything before `rest`. -/
def readOn (rest : Text) (result : Except ReadError α) : Except ReadError (α × Text) :=
  result.map fun a => (a, rest)

theorem readOn_bind (rest : Text) (x : Except ReadError α) (f : α → Except ReadError β) :
    readOn rest (x >>= f) = x >>= fun a => readOn rest (f a) := by
  cases x <;> rfl

theorem run_bind_readOn {x : Reader α} {result : Except ReadError α}
    (h : x.run s = readOn rest result) (f : α → Reader β) :
    (x >>= f).run s = result >>= fun a => (f a).run rest := by
  rw [StateT.run_bind, h]
  cases result <;> rfl

/-- Text that starts a value: neither a blank nor the end of a container. -/
def Opens (cs : List Char) : Prop :=
  ∃ c cs', cs = c :: cs' ∧ isBlankPiece (.char c) = false ∧ c ≠ ']' ∧ c ≠ '}'

theorem stops_cons {c : Char} (h : c = ',' ∨ c = ']' ∨ c = '}') (s : Text) :
    Stops (.char c :: s) := by
  intro p hp
  obtain rfl := Option.some.inj hp
  rcases h with rfl | rfl | rfl <;> decide

theorem Opens.length_pos {cs : List Char} (h : Opens cs) : 0 < cs.length := by
  obtain ⟨c, cs', rfl, -⟩ := h
  exact Nat.succ_pos _

theorem Opens.append {cs : List Char} (h : Opens cs) (ds : List Char) : Opens (cs ++ ds) := by
  obtain ⟨c, cs', rfl, hc⟩ := h
  exact ⟨c, cs' ++ ds, rfl, hc⟩

theorem joined_cons_cons (sep t t' : List Char) (ts : List (List Char)) :
    joined sep (t :: t' :: ts) = t ++ sep ++ joined sep (t' :: ts) := rfl

theorem Opens.joined {sep : List Char} {ts : List (List Char)} (hts : ts ≠ [])
    (h : ∀ t ∈ ts, Opens t) : Opens (Json.joined sep ts) := by
  match ts, hts with
  | [t], _ => exact h t List.mem_cons_self
  | t :: t' :: ts, _ =>
    rw [joined_cons_cons, List.append_assoc]
    exact (h t List.mem_cons_self).append _

theorem length_le_joined (sep : List Char) {ts : List (List Char)} (h : ∀ t ∈ ts, 0 < t.length) :
    ts.length ≤ (joined sep ts).length := by
  induction ts with
  | nil => exact Nat.le_refl _
  | cons t ts ih =>
    have ht := h t List.mem_cons_self
    have hts := ih fun t ht => h t (List.mem_cons_of_mem _ ht)
    cases ts with
    | nil =>
      rw [joined, List.length_singleton]
      exact ht
    | cons t' ts =>
      rw [joined_cons_cons, List.length_append, List.length_append, List.length_cons]
      omega

/-! ## Arrays -/

section

variable {item : Reader α} {text : β → List Char} {result : β → Except ReadError α}

theorem run_itemsFrom (rest : Text) {bs : List β} (hb : bs ≠ [])
    (hitem : ∀ b ∈ bs, ∀ rest, Stops rest →
      item.run (pieces (text b) ++ rest) = readOn rest (result b)) :
    ∀ fuel, bs.length ≤ fuel →
      (itemsFrom item fuel).run (pieces (joined [','] (bs.map text)) ++ .char ']' :: rest) =
        readOn rest (bs.mapM result) := by
  induction bs with
  | nil => exact absurd rfl hb
  | cons b bs ih =>
    intro fuel hf
    obtain ⟨fuel, rfl⟩ : ∃ n, fuel = n + 1 := ⟨fuel - 1, by rw [List.length_cons] at hf; omega⟩
    have hfirst := hitem b List.mem_cons_self
    cases bs with
    | nil =>
      have hrun := hfirst (.char ']' :: rest) (stops_cons (by simp) _)
      rw [List.map_cons, List.map_nil, joined, itemsFrom, run_bind_readOn hrun, List.mapM_cons,
        readOn_bind]
      refine bind_congr fun a => ?_
      rw [run_bind_ok (run_nextSolid (by decide) rest)]
      rfl
    | cons b' bs =>
      have hnext := ih (List.cons_ne_nil _ _) (fun b hb => hitem b (List.mem_cons_of_mem _ hb)) fuel
        (Nat.le_of_succ_le_succ hf)
      have hrun := hfirst
        (.char ',' :: (pieces (joined [','] ((b' :: bs).map text)) ++ .char ']' :: rest))
        (stops_cons (by simp) _)
      rw [List.map_cons, List.map_cons, joined_cons_cons, ← List.map_cons, pieces_append,
        pieces_append, pieces_cons, pieces_nil, List.append_assoc, List.append_assoc,
        List.singleton_append, itemsFrom, run_bind_readOn hrun, List.mapM_cons, readOn_bind]
      refine bind_congr fun a => ?_
      rw [run_bind_ok (run_nextSolid (by decide) _), readOn_bind]
      exact run_bind_readOn hnext _

theorem run_arrayBody {bs : List β} (hopen : ∀ b ∈ bs, Opens (text b))
    (hitem : ∀ b ∈ bs, ∀ rest, Stops rest →
      item.run (pieces (text b) ++ rest) = readOn rest (result b)) (rest : Text) :
    (arrayBody item).run (pieces (joined [','] (bs.map text)) ++ .char ']' :: rest) =
      readOn rest (bs.mapM result) := by
  unfold arrayBody
  by_cases hb : bs = []
  · subst hb
    rfl
  have hopen' : Opens (joined [','] (bs.map text)) := by
    refine Opens.joined (by simpa using hb) fun t ht => ?_
    obtain ⟨b, hb, rfl⟩ := List.mem_map.1 ht
    exact hopen b hb
  have hlen : bs.length ≤ (pieces (joined [','] (bs.map text)) ++ .char ']' :: rest).length := by
    have hle := length_le_joined [','] fun t (ht : t ∈ bs.map text) => by
      obtain ⟨b, hb, rfl⟩ := List.mem_map.1 ht
      exact (hopen b hb).length_pos
    rw [List.length_map] at hle
    rw [List.length_append, length_pieces]
    omega
  have hitems := run_itemsFrom rest hb hitem _ hlen
  obtain ⟨c, cs, hj, hblank, hclose, -⟩ := hopen'
  rw [hj, pieces_cons, List.cons_append] at hitems ⊢
  rw [run_bind_ok (run_peek hblank _), if_neg fun h => hclose (Piece.char.inj h)]
  exact (run_bind_ok rfl _).trans hitems

end

/-! ## Objects -/

section

variable {member : String → σ → Except ReadError (Reader σ)} {text : β → List Char}
  {step : σ → String × β → Except ReadError σ}

/-- The text of a member. -/
def memberText (text : β → List Char) (e : String × β) : List Char :=
  quoted e.1 ++ ':' :: text e.2

theorem run_key (k : String) (rest : Text) : key.run (pieces (quoted k) ++ rest) = .ok (k, rest) := by
  rw [quoted, pieces_cons, List.cons_append, key, run_bind_ok (run_nextSolid (by decide) _),
    if_pos rfl, run_stringBody]

theorem opens_memberText (e : String × β) : Opens (memberText text e) :=
  ⟨'"', _, rfl, by decide, by decide, by decide⟩

theorem run_membersFrom_succ {e : String × β} {st : σ} {result : Except ReadError σ}
    (h : (member e.1 st >>= fun value => value.run (pieces (text e.2) ++ s)) = readOn s result)
    (fuel : Nat) :
    (membersFrom member (fuel + 1) st).run (pieces (memberText text e) ++ s) =
      result >>= fun st => (do
        match ← nextSolid with
        | .char ',' => membersFrom member fuel st
        | .char '}' => return st
        | _ => throw .malformed : Reader σ).run s := by
  rw [memberText, pieces_append, List.append_assoc, membersFrom, run_bind_ok (run_key e.1 _)]
  cases hm : member e.1 st with
  | error cause =>
    rw [hm] at h
    cases result with
    | error cause' => cases h; rfl
    | ok st => cases h
  | ok value =>
    rw [hm] at h
    refine (run_bind_ok rfl _).trans ?_
    rw [pieces_cons, List.cons_append]
    refine (run_bind_ok (run_nextSolid (by decide) _) _).trans ?_
    exact run_bind_readOn h _

theorem run_membersFrom (rest : Text) {es : List (String × β)} (hes : es ≠ [])
    (hmember : ∀ e ∈ es, ∀ st rest, Stops rest →
      (member e.1 st >>= fun value => value.run (pieces (text e.2) ++ rest)) =
        readOn rest (step st e)) :
    ∀ fuel st, es.length ≤ fuel →
      (membersFrom member fuel st).run
          (pieces (joined [','] (es.map (memberText text))) ++ .char '}' :: rest) =
        readOn rest (es.foldlM step st) := by
  induction es with
  | nil => exact absurd rfl hes
  | cons e es ih =>
    intro fuel st hf
    obtain ⟨fuel, rfl⟩ : ∃ n, fuel = n + 1 := ⟨fuel - 1, by rw [List.length_cons] at hf; omega⟩
    have hfirst := hmember e List.mem_cons_self st
    cases es with
    | nil =>
      have hrun := hfirst (.char '}' :: rest) (stops_cons (by simp) _)
      rw [List.map_cons, List.map_nil, joined, run_membersFrom_succ hrun, List.foldlM_cons,
        readOn_bind]
      refine bind_congr fun st => ?_
      rw [run_bind_ok (run_nextSolid (by decide) rest)]
      rfl
    | cons e' es =>
      have hnext := ih (List.cons_ne_nil _ _)
        (fun e he => hmember e (List.mem_cons_of_mem _ he)) fuel
      have hrun := hfirst
        (.char ',' ::
          (pieces (joined [','] ((e' :: es).map (memberText text))) ++ .char '}' :: rest))
        (stops_cons (by simp) _)
      rw [List.map_cons, List.map_cons, joined_cons_cons, ← List.map_cons, pieces_append,
        pieces_append, pieces_cons, pieces_nil, List.append_assoc, List.append_assoc,
        List.singleton_append, run_membersFrom_succ hrun, List.foldlM_cons, readOn_bind]
      refine bind_congr fun st => ?_
      rw [run_bind_ok (run_nextSolid (by decide) _)]
      exact hnext st (Nat.le_of_succ_le_succ hf)

theorem run_objectBody {es : List (String × β)}
    (hmember : ∀ e ∈ es, ∀ st rest, Stops rest →
      (member e.1 st >>= fun value => value.run (pieces (text e.2) ++ rest)) =
        readOn rest (step st e)) (st : σ) (rest : Text) :
    (objectBody member st).run
        (pieces (joined [','] (es.map (memberText text))) ++ .char '}' :: rest) =
      readOn rest (es.foldlM step st) := by
  unfold objectBody
  by_cases hes : es = []
  · subst hes
    rfl
  have hopen : Opens (joined [','] (es.map (memberText text))) := by
    refine Opens.joined (by simpa using hes) fun t ht => ?_
    obtain ⟨e, -, rfl⟩ := List.mem_map.1 ht
    exact opens_memberText e
  have hlen : es.length ≤
      (pieces (joined [','] (es.map (memberText text))) ++ .char '}' :: rest).length := by
    have hle := length_le_joined [','] fun t (ht : t ∈ es.map (memberText text)) => by
      obtain ⟨e, -, rfl⟩ := List.mem_map.1 ht
      exact (opens_memberText e).length_pos
    rw [List.length_map] at hle
    rw [List.length_append, length_pieces]
    omega
  have hmembers := run_membersFrom rest hes hmember _ st hlen
  obtain ⟨c, cs, hj, hblank, -, hclose⟩ := hopen
  rw [hj, pieces_cons, List.cons_append] at hmembers ⊢
  rw [run_bind_ok (run_peek hblank _), if_neg fun h => hclose (Piece.char.inj h)]
  exact (run_bind_ok rfl _).trans hmembers

end

end ModuleHost.Json.Reader
