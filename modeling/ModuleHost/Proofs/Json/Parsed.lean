import Mathlib.Tactic.SplitIfs
import ModuleHost.Json.Reader
import ModuleHost.Proofs.Json.Shape

/-!
# What readers give

* `Reader.Gives` — everything that a reader gives has a property;
* **`gives_value`**: a value that is read is sorted and within its bound on open brackets;
* **`parseText_ok`**: so is that of a whole text.
-/

namespace ModuleHost

namespace Fields

variable {κ α : Type} [Ord κ] [Std.LawfulEqOrd κ]

theorem mem_insert {k : κ} {a : α} {fs : Fields κ α} {e : κ × α} (h : e ∈ insert k a fs) :
    e = (k, a) ∨ e ∈ fs := by
  induction fs with
  | nil => exact .inl (List.mem_singleton.1 h)
  | cons f fs ih =>
    obtain ⟨k', b⟩ := f
    rw [insert] at h
    split at h
    · exact List.mem_cons.1 h
    · next hk =>
      obtain rfl := Std.compare_eq_iff_eq.1 hk
      exact (List.mem_cons.1 h).imp id (List.mem_cons_of_mem _)
    · rcases List.mem_cons.1 h with rfl | h
      · exact .inr List.mem_cons_self
      · exact (ih h).imp id (List.mem_cons_of_mem _)

theorem mem_ofList {entries : List (κ × α)} {e : κ × α} (h : e ∈ ofList entries) :
    e ∈ entries := by
  induction entries using List.reverseRecOn with
  | nil => exact h
  | append_singleton entries e' ih =>
    rw [ofList_append_singleton] at h
    rcases mem_insert h with rfl | h
    · exact List.mem_append_right _ (List.mem_singleton.2 rfl)
    · exact List.mem_append_left _ (ih h)

end Fields

namespace Json

open ModuleHost.Text

namespace Reader

variable {α β σ : Type}

/-- Everything that the reader gives has the property. -/
def Gives (r : Reader α) (P : α → Prop) : Prop := ∀ s a s', r.run s = .ok (a, s') → P a

variable {P : α → Prop} {Q : β → Prop}

theorem Gives.of_pure {a : α} (h : P a) : Gives (pure a) P := by
  intro s b s' hr
  cases hr
  exact h

theorem Gives.of_throw (e : ReadError) : Gives (throw e) P := by
  intro s a s' hr
  cases hr

theorem Gives.of_throw_bind (e : ReadError) (f : β → Reader α) : Gives (throw e >>= f) P := by
  intro s a s' hr
  cases hr

theorem Gives.bind {x : Reader β} {f : β → Reader α} (hx : Gives x Q)
    (hf : ∀ b, Q b → Gives (f b) P) : Gives (x >>= f) P := by
  intro s a s' hr
  rw [StateT.run_bind] at hr
  cases hb : x.run s with
  | error e =>
    rw [hb] at hr
    cases hr
  | ok p =>
    rw [hb] at hr
    exact hf p.1 (hx s p.1 p.2 hb) _ _ _ hr

/-- Whatever the first reader gives. -/
theorem Gives.after {x : Reader β} {f : β → Reader α} (hf : ∀ b, Gives (f b) P) :
    Gives (x >>= f) P := Gives.bind (Q := fun _ => True) (fun _ _ _ _ => trivial) fun b _ => hf b

theorem Gives.map {x : Reader β} {f : β → α} (hx : Gives x Q) (hf : ∀ b, Q b → P (f b)) :
    Gives (f <$> x) P := by
  rw [map_eq_pure_bind]
  exact hx.bind fun b hb => .of_pure (hf b hb)

/-! ## Containers -/

theorem gives_itemsFrom {item : Reader α} (h : Gives item P) (fuel : Nat) :
    Gives (itemsFrom item fuel) fun as => ∀ a ∈ as, P a := by
  induction fuel with
  | zero => exact .of_throw _
  | succ fuel ih =>
    rw [itemsFrom]
    refine h.bind fun a ha => .after fun p => ?_
    split
    · exact ih.bind fun as has => .of_pure (List.forall_mem_cons.2 ⟨ha, has⟩)
    · exact .of_pure (List.forall_mem_singleton.2 ha)
    · exact .of_throw _

theorem gives_arrayBody {item : Reader α} (h : Gives item P) :
    Gives (arrayBody item) fun as => ∀ a ∈ as, P a := by
  unfold arrayBody
  refine .after fun p => ?_
  split
  · exact .after fun _ => .of_pure (by simp)
  · exact .after fun s => gives_itemsFrom h _

theorem gives_membersFrom {member : String → σ → Except ReadError (Reader σ)} {P : σ → Prop}
    (h : ∀ k st value, P st → member k st = .ok value → Gives value P) (fuel : Nat) :
    ∀ st, P st → Gives (membersFrom member fuel st) P := by
  induction fuel with
  | zero => exact fun st _ => .of_throw _
  | succ fuel ih =>
    intro st hst
    rw [membersFrom]
    refine .after fun k => ?_
    have hmember : Gives (liftM (member k st) : Reader (Reader σ)) fun value => Gives value P := by
      intro s value s' hr
      cases hm : member k st with
      | error e =>
        rw [hm] at hr
        cases hr
      | ok value' =>
        rw [hm] at hr
        cases hr
        exact h k st _ hst hm
    refine hmember.bind fun value hvalue => .after fun p => ?_
    split
    · exact .of_throw_bind _ _
    · refine hvalue.bind fun st' hst' => .after fun p => ?_
      split
      · exact ih st' hst'
      · exact .of_pure hst'
      · exact .of_throw _

theorem gives_objectBody {member : String → σ → Except ReadError (Reader σ)} {P : σ → Prop}
    (h : ∀ k st value, P st → member k st = .ok value → Gives value P) {st : σ} (hst : P st) :
    Gives (objectBody member st) P := by
  unfold objectBody
  refine .after fun p => ?_
  split
  · exact .after fun _ => .of_pure hst
  · exact .after fun s => gives_membersFrom h _ st hst

/-! ## Values -/

/-- A sorted value that opens at most `d` brackets at one point. -/
def Fits (d : Nat) (j : Json) : Prop := j.Sorted ∧ j.depth ≤ d

theorem fits_array {d : Nat} {items : List Json} (h : ∀ j ∈ items, Fits d j) :
    Fits (d + 1) (.array items) := by
  refine ⟨?_, ?_⟩
  · rw [Sorted, sortedItems_iff]
    exact fun j hj => (h j hj).1
  · rw [depth]
    exact Nat.succ_le_succ (depthItems_le.2 fun j hj => (h j hj).2)

theorem fits_object {d : Nat} {entries : List (String × Json)} (h : ∀ e ∈ entries, Fits d e.2) :
    Fits (d + 1) (object entries) := by
  refine ⟨?_, ?_⟩
  · rw [object, Sorted, sortedEntries_iff]
    exact ⟨Fields.sorted_ofList entries, fun e he => (h e (Fields.mem_ofList he)).1⟩
  · rw [object, depth]
    exact Nat.succ_le_succ (depthEntries_le.2 fun e he => (h e (Fields.mem_ofList he)).2)

theorem gives_scalar {d : Nat} {x : Reader β} {f : β → Json}
    (h : ∀ b, (f b).Sorted ∧ (f b).depth = 0) : Gives (x >>= fun b => pure (f b)) (Fits d) :=
  .after fun b => .of_pure ⟨(h b).1, by rw [(h b).2]; exact Nat.zero_le d⟩

theorem gives_members {d : Nat} (h : Gives (value d) (Fits d)) :
    Gives (objectBody (fun k es => .ok ((fun j => (k, j) :: es) <$> value d)) [])
      fun es : List (String × Json) => ∀ e ∈ es, Fits d e.2 := by
  refine gives_objectBody (fun k es value hes hv => ?_) (by simp)
  cases hv
  exact h.map fun j hj => List.forall_mem_cons.2 ⟨hj, hes⟩

theorem gives_value_of {d : Nat} (h : ∀ d', d = d' + 1 → Gives (value d') (Fits d')) :
    Gives (value d) (Fits d) := by
  unfold value
  refine .after fun p => ?_
  split_ifs
  · exact .after fun _ => gives_scalar fun s => ⟨trivial, rfl⟩
  · exact gives_scalar fun n => ⟨trivial, rfl⟩
  · refine .after fun _ => ?_
    cases d with
    | zero => exact .of_throw _
    | succ d =>
      exact (gives_arrayBody (h d rfl)).bind fun items hitems => .of_pure (fits_array hitems)
  · refine .after fun _ => ?_
    cases d with
    | zero => exact .of_throw _
    | succ d =>
      refine (gives_members (h d rfl)).bind fun es hes => .of_pure (fits_object fun e he => ?_)
      exact hes e (List.mem_reverse.1 he)
  · exact gives_scalar fun _ => ⟨trivial, rfl⟩
  · exact gives_scalar fun _ => ⟨trivial, rfl⟩
  · exact gives_scalar fun _ => ⟨trivial, rfl⟩
  · exact .of_throw _

/-- **A value that is read is sorted and within its bound.** -/
theorem gives_value (d : Nat) : Gives (value d) (Fits d) := by
  induction d with
  | zero => exact gives_value_of fun d' h => absurd h (Nat.succ_ne_zero d').symm
  | succ d ih =>
    refine gives_value_of fun d' h => ?_
    obtain rfl := Nat.succ.inj h
    exact ih

end Reader

/-- The value of a text is sorted and within the bound on open brackets. -/
theorem parseText_ok {t : Text} {j : Json} (h : parseText t = .ok j) :
    j.Sorted ∧ j.depth ≤ Reader.maxDepth := by
  unfold parseText Reader.whole at h
  cases hr : (Reader.value Reader.maxDepth).run t with
  | error e =>
    rw [hr] at h
    cases h
  | ok p =>
    rw [hr] at h
    have hj : p.1 = j := by
      simp only [bind, Except.bind] at h
      split at h
      · exact Except.ok.inj h
      · cases h
    rw [← hj]
    exact Reader.gives_value _ t p.1 p.2 hr

end Json

end ModuleHost
