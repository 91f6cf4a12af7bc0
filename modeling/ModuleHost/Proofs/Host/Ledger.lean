import Mathlib.Data.List.Nodup
import ModuleHost.Proofs.Host.Crowd

/-!
# Posted requests, served requests and callers

* `Context.after` — the context that requests leave;
* `Crowd.Tells`, `Crowd.Held`, `Crowd.Heard` — what the stage of a caller has to do with what was
  posted and served;
* `Crowd.Ledger` — posted requests, served requests and callers agree;
* **`Crowd.ledger_step`**: every turn keeps that, and `Crowd.ledger_history` every schedule.
-/

namespace ModuleHost

theorem posts_append (es es' : List Event) : posts (es ++ es') = posts es ++ posts es' :=
  List.filterMap_append

theorem serves_append (es es' : List Event) : serves (es ++ es') = serves es ++ serves es' :=
  List.filterMap_append

theorem posts_posted (es : List Event) (p : Posted) :
    posts (es ++ [.posted p]) = posts es ++ [p] := posts_append ..

theorem serves_posted (es : List Event) (p : Posted) : serves (es ++ [.posted p]) = serves es := by
  rw [serves_append]
  exact List.append_nil _

theorem posts_served (es : List Event) (x : Served) : posts (es ++ [.served x]) = posts es := by
  rw [posts_append]
  exact List.append_nil _

theorem serves_served (es : List Event) (x : Served) :
    serves (es ++ [.served x]) = serves es ++ [x] := serves_append ..

/-- What holds of every entry and those before it holds with one more entry. -/
theorem forall_take_concat {α : Type} {P : List α → α → Prop} {xs : List α} {x : α}
    (h : ∀ k y, xs[k]? = some y → P (xs.take k) y) (hx : P xs x) :
    ∀ k y, (xs ++ [x])[k]? = some y → P ((xs ++ [x]).take k) y := by
  intro k y hy
  rcases Nat.lt_or_ge k xs.length with hk | hk
  · rw [List.getElem?_append_left hk] at hy
    rw [List.take_append_of_le_length (Nat.le_of_lt hk)]
    exact h k y hy
  · rw [List.getElem?_append_right hk, List.getElem?_singleton] at hy
    split at hy
    · next hzero =>
      cases hy
      rw [List.take_append_of_le_length (by omega), List.take_of_length_le hk]
      exact hx
    · cases hy

variable {R : ControlRuntime}

namespace Context

/-- The context that requests leave, from the start. -/
def after (sink : Sink) (requests : List Request) : Context R :=
  (serveAll (some .uninitialized) sink requests).1

theorem serveAll_append (c : Context R) (sink : Sink) (rs rs' : List Request) :
    (serveAll c sink (rs ++ rs')).1 = (serveAll (serveAll c sink rs).1 sink rs').1 := by
  induction rs generalizing c with
  | nil => rfl
  | cons r rs ih => exact ih _

theorem after_append (sink : Sink) (rs rs' : List Request) :
    after sink (rs ++ rs') = (serveAll (after sink rs : Context R) sink rs').1 :=
  serveAll_append ..

variable {c : Context R} {sink : Sink} {request : Request}

/-- A response has the number of its request and holds the reply of the registry. -/
theorem serve_response {r : Response} (h : (c.serve sink request).2.1 = some r) :
    r.id = request.id ∧ ∃ registry, c = some registry ∧
      (registry.handle sink request.command).result = some r.reply := by
  cases c with
  | none => cases h
  | some registry =>
    simp only [serve] at h
    cases ho : (registry.handle sink request.command).result with
    | none => simp [ho] at h
    | some reply =>
      simp only [ho, Option.some.injEq] at h
      subst h
      exact ⟨rfl, registry, rfl, ho⟩

theorem serve_lost (h : (c.serve sink request).2.1 = none) : (c.serve sink request).1 = none := by
  cases c with
  | none => rfl
  | some registry =>
    simp only [serve] at h ⊢
    cases ho : (registry.handle sink request.command).result with
    | none => rfl
    | some reply => simp [ho] at h

theorem serveAll_none (sink : Sink) (requests : List Request) :
    (serveAll (none : Context R) sink requests).1 = none := by
  induction requests with
  | nil => rfl
  | cons _ _ ih => exact ih

end Context

namespace Crowd

theorem after_append (s : Crowd R) (ts ts' : List Turn) :
    s.after (ts ++ ts') = (s.after ts).after ts' := by
  induction ts generalizing s with
  | nil => rfl
  | cons t ts ih => exact ih _

theorem history_append (s : Crowd R) (ts ts' : List Turn) :
    s.history (ts ++ ts') = s.history ts ++ (s.after ts).history ts' := by
  induction ts generalizing s with
  | nil => rfl
  | cons t ts ih => rw [List.cons_append, history, ih, ← List.append_assoc]; rfl

theorem move_stage (s : Crowd R) (c : Nat) (stage : Stage) (c' : Nat) :
    (s.move c stage).stage c' = if c' = c then stage else s.stage c' :=
  Function.update_apply ..

/-! ## What every turn keeps -/

/-- What the stage of a caller tells of requests. -/
def Tells (s : Crowd R) (events : List Event) (caller : Nat) : Stage → Prop
  | .idle | .admitted _ => ∀ p ∈ posts events, p.caller ≠ caller
  | .numbered _ id =>
    id < s.nextId ∧ ∀ p ∈ posts events, p.caller ≠ caller ∧ p.request.id ≠ id
  | .waiting op id => ⟨caller, ⟨id, op.command⟩⟩ ∈ s.queue
  | .told op id response =>
    ∃ x ∈ serves events, x.posted = ⟨caller, ⟨id, op.command⟩⟩ ∧ x.response = response
  | .settled op answer =>
    ((∀ p ∈ posts events, p.caller ≠ caller) ∧
      (answer = op.refusal ∨ answer = Host.lostAnswer op)) ∨
    ∃ x ∈ serves events, x.posted.caller = caller ∧ x.posted.request.command = op.command ∧
      answer = op.received x.response
  | .dropped op id => ⟨caller, ⟨id, op.command⟩⟩ ∈ posts events

/-- The caller of a request that is in the queue waits, or gave it up. -/
inductive Held (p : Posted) : Stage → Prop where
  | waiting (op : Operation) (id : Nat) (own : p.request = ⟨id, op.command⟩) :
    Held p (.waiting op id)
  | dropped (op : Operation) (id : Nat) (own : p.request = ⟨id, op.command⟩) :
    Held p (.dropped op id)

/-- The caller of a request that was served has what became of it, or gave it up. -/
inductive Heard (x : Served) : Stage → Prop where
  | told (op : Operation) (id : Nat) (own : x.posted.request = ⟨id, op.command⟩) :
    Heard x (.told op id x.response)
  | settled (op : Operation) (own : x.posted.request.command = op.command) :
    Heard x (.settled op (op.received x.response))
  | dropped (op : Operation) (id : Nat) (own : x.posted.request = ⟨id, op.command⟩) :
    Heard x (.dropped op id)

/-- Posted requests, served requests and callers agree. -/
structure Ledger (sink : Sink) (s : Crowd R) (events : List Event) : Prop where
  sink_eq : s.sink = sink
  queue : posts events = (serves events).map (·.posted) ++ s.queue
  context : s.context = Context.after sink ((serves events).map (·.posted.request))
  served : ∀ k x, (serves events)[k]? = some x →
    (x.response, x.activity) = ((Context.after sink (((serves events).take k).map
      (·.posted.request)) : Context R).serve sink x.posted.request).2
  callers : ((posts events).map (·.caller)).Nodup
  numbers : ((posts events).map (·.request.id)).Nodup
  below : ∀ p ∈ posts events, p.request.id < s.nextId
  apart : ∀ c c' op op' id, s.stage c = .numbered op id → s.stage c' = .numbered op' id → c = c'
  tells : ∀ c, s.Tells events c (s.stage c)
  held : ∀ p ∈ s.queue, Held p (s.stage p.caller)
  heard : ∀ x ∈ serves events, Heard x (s.stage x.posted.caller)

theorem ledger_start (sink : Sink) : Ledger sink (start sink : Crowd R) [] where
  sink_eq := rfl
  queue := rfl
  context := rfl
  served _ _ h := nomatch h
  callers := .nil
  numbers := .nil
  below _ hp := nomatch hp
  apart _ _ _ _ _ h := nomatch h
  tells _ _ hp := nomatch hp
  held _ hp := nomatch hp
  heard _ hx := nomatch hx

variable {sink : Sink} {s s' : Crowd R} {events events' : List Event}

theorem Ledger.eq_of_caller (h : Ledger sink s events) {p q : Posted} (hp : p ∈ posts events)
    (hq : q ∈ posts events) (hc : p.caller = q.caller) : p = q :=
  List.inj_on_of_nodup_map h.callers hp hq hc

theorem Ledger.mem_of_served (h : Ledger sink s events) {x : Served} (hx : x ∈ serves events) :
    x.posted ∈ posts events := by
  rw [h.queue]
  exact List.mem_append_left _ (List.mem_map_of_mem hx)

theorem Ledger.mem_of_queue (h : Ledger sink s events) {p : Posted} (hp : p ∈ s.queue) :
    p ∈ posts events := by
  rw [h.queue]
  exact List.mem_append_right _ hp

/-- No other request of the caller at the head is in the queue. -/
theorem Ledger.caller_ne_head (h : Ledger sink s events) {p q : Posted} {queue : List Posted}
    (hq : s.queue = p :: queue) (hmem : q ∈ queue) : q.caller ≠ p.caller := by
  have hdistinct := h.callers
  rw [h.queue, hq, List.map_append, List.map_cons] at hdistinct
  have hnot := (List.nodup_cons.1 (List.nodup_append.1 hdistinct).2.1).1
  exact fun hc => hnot (List.mem_map.2 ⟨q, hmem, hc⟩)

/-- A stage tells the same after turns of others. -/
theorem Tells.mono {c : Nat} {stage : Stage} (h : s.Tells events c stage)
    (next : s.nextId ≤ s'.nextId)
    (posted : ∀ p ∈ posts events', p ∈ posts events ∨
      p.caller ≠ c ∧ ∀ op id, stage = .numbered op id → p.request.id ≠ id)
    (kept : ∀ p ∈ posts events, p ∈ posts events')
    (served : ∀ x ∈ serves events, x ∈ serves events')
    (queue : ∀ op id, stage = .waiting op id → ⟨c, ⟨id, op.command⟩⟩ ∈ s'.queue) :
    s'.Tells events' c stage := by
  have silent (hs : ∀ p ∈ posts events, p.caller ≠ c) : ∀ p ∈ posts events', p.caller ≠ c :=
    fun p hp => (posted p hp).elim (hs p) And.left
  cases stage with
  | idle | admitted => exact silent h
  | numbered op id =>
    refine ⟨Nat.lt_of_lt_of_le h.1 next, fun p hp => ?_⟩
    rcases posted p hp with hp | ⟨hcaller, hid⟩
    · exact h.2 p hp
    · exact ⟨hcaller, hid op id rfl⟩
  | waiting op id => exact queue op id rfl
  | told =>
    obtain ⟨x, hx, hrest⟩ := h
    exact ⟨x, served x hx, hrest⟩
  | settled =>
    rcases h with ⟨hs, hanswer⟩ | ⟨x, hx, hrest⟩
    · exact .inl ⟨silent hs, hanswer⟩
    · exact .inr ⟨x, served x hx, hrest⟩
  | dropped => exact kept _ h

/-- A turn that leaves the queue alone moves one caller. -/
theorem Ledger.move (h : Ledger sink s events) {c n : Nat} {stage : Stage} {closed : Bool}
    (next : s.nextId ≤ n)
    (tells : Tells { s.move c stage with closed := closed, nextId := n } events c stage)
    (fresh : ∀ op id, stage = .numbered op id → ∀ c' op', s.stage c' ≠ .numbered op' id)
    (held : ∀ p ∈ s.queue, p.caller = c → Held p stage)
    (heard : ∀ x ∈ serves events, x.posted.caller = c → Heard x stage) :
    Ledger sink { s.move c stage with closed := closed, nextId := n } events := by
  refine { h with
    below := fun p hp => Nat.lt_of_lt_of_le (h.below p hp) next
    apart := fun c₁ c₂ op₁ op₂ id h₁ h₂ => ?_
    tells := fun c' => ?_
    held := fun p hp => ?_
    heard := fun x hx => ?_ }
  · simp only [move_stage] at h₁ h₂
    split at h₁ <;> split at h₂
    · next e₁ e₂ => rw [e₁, e₂]
    · exact absurd h₂ (fresh op₁ id h₁ _ _)
    · exact absurd h₁ (fresh op₂ id h₂ _ _)
    · exact h.apart c₁ c₂ op₁ op₂ id h₁ h₂
  · show Tells _ events c' ((s.move c stage).stage c')
    rw [move_stage]
    split
    · next hc => exact hc ▸ tells
    · refine (h.tells c').mono next (fun p hp => .inl hp) (fun p hp => hp) (fun x hx => hx)
        fun op' id hs => ?_
      have := h.tells c'
      rwa [hs] at this
  · show Held p ((s.move c stage).stage p.caller)
    rw [move_stage]
    split
    · next hc => exact held p hp hc
    · exact h.held p hp
  · show Heard x ((s.move c stage).stage x.posted.caller)
    rw [move_stage]
    split
    · next hc => exact heard x hx hc
    · exact h.heard x hx

theorem Ledger.move_silent (h : Ledger sink s events) {c n : Nat} {stage : Stage} {closed : Bool}
    (next : s.nextId ≤ n) (silent : ∀ p ∈ posts events, p.caller ≠ c)
    (tells : Tells { s.move c stage with closed := closed, nextId := n } events c stage)
    (fresh : ∀ op id, stage = .numbered op id → ∀ c' op', s.stage c' ≠ .numbered op' id) :
    Ledger sink { s.move c stage with closed := closed, nextId := n } events :=
  h.move next tells fresh
    (fun p hp hc => absurd hc (silent p (h.mem_of_queue hp)))
    (fun _ hx hc => absurd hc (silent _ (h.mem_of_served hx)))

theorem Ledger.ask (h : Ledger sink s events) (c : Nat) (op : Operation) :
    Ledger sink (s.ask c op) events := by
  have tells := h.tells c
  unfold Crowd.ask
  split
  · next hc =>
    rw [hc] at tells
    refine h.move_silent (Nat.le_refl _) tells ?_ fun op' id => ?_
    · split
      · exact .inl ⟨tells, .inl rfl⟩
      · exact tells
    · split <;> exact nofun
  · exact h

theorem Ledger.number (h : Ledger sink s events) (c : Nat) : Ledger sink (s.number c) events := by
  have tells := h.tells c
  unfold Crowd.number
  split
  · next op hc =>
    rw [hc] at tells
    refine h.move_silent (Nat.le_succ _) tells ?_ ?_
    · exact ⟨Nat.lt_succ_self _, fun p hp => ⟨tells p hp, Nat.ne_of_lt (h.below p hp)⟩⟩
    · rintro op' id ⟨⟩ c' op'' hc'
      -- no other caller has the next number
      have := h.tells c'
      rw [hc'] at this
      exact absurd this.1 (Nat.lt_irrefl _)
  · exact h

theorem Ledger.post (h : Ledger sink s events) (c : Nat) :
    Ledger sink (s.post c).1 (events ++ (s.post c).2) := by
  have tells := h.tells c
  unfold Crowd.post
  split
  · next op id hc _ =>
    rw [hc] at tells
    rw [List.append_nil]
    have silent : ∀ p ∈ posts events, p.caller ≠ c := fun p hp => (tells.2 p hp).1
    exact h.move_silent (Nat.le_refl _) silent (.inl ⟨silent, .inr rfl⟩) nofun
  · next op id r hc hr =>
    rw [hc] at tells
    have hposts := posts_posted events ⟨c, ⟨id, op.command⟩⟩
    have hserves := serves_posted events ⟨c, ⟨id, op.command⟩⟩
    constructor
    case sink_eq => exact h.sink_eq
    case queue => rw [hposts, hserves, h.queue, List.append_assoc]
    case context =>
      rw [hserves]
      exact h.context
    case served =>
      rw [hserves]
      exact h.served
    case callers =>
      rw [hposts, List.map_append]
      refine h.callers.append (List.nodup_singleton _) fun c' hc' hsingle => ?_
      obtain ⟨p, hp, rfl⟩ := List.mem_map.1 hc'
      exact (tells.2 p hp).1 (List.mem_singleton.1 hsingle)
    case numbers =>
      rw [hposts, List.map_append]
      refine h.numbers.append (List.nodup_singleton _) fun n hn hsingle => ?_
      obtain ⟨p, hp, rfl⟩ := List.mem_map.1 hn
      exact (tells.2 p hp).2 (List.mem_singleton.1 hsingle)
    case below =>
      rw [hposts]
      intro p hp
      rcases List.mem_append.1 hp with hp | hp
      · exact h.below p hp
      · rw [List.mem_singleton.1 hp]
        exact tells.1
    case apart =>
      intro c₁ c₂ op₁ op₂ id' h₁ h₂
      simp only [move_stage] at h₁ h₂
      split at h₁
      · cases h₁
      · split at h₂
        · cases h₂
        · exact h.apart _ _ _ _ _ h₁ h₂
    case tells =>
      intro c'
      simp only [move_stage]
      split
      · next e =>
        subst e
        exact List.mem_append_right _ (List.mem_singleton_self _)
      · next e =>
        refine (h.tells c').mono (Nat.le_refl _) (fun p hp => ?_) (fun p hp => ?_) (fun x hx => ?_)
          fun op' id' hs => ?_
        · rw [hposts] at hp
          rcases List.mem_append.1 hp with hp | hp
          · exact .inl hp
          · rw [List.mem_singleton.1 hp]
            refine .inr ⟨Ne.symm e, ?_⟩
            rintro op' id' hs rfl
            exact e (h.apart _ _ _ _ _ hs hc)
        · rw [hposts]
          exact List.mem_append_left _ hp
        · rwa [hserves]
        · have := h.tells c'
          rw [hs] at this
          exact List.mem_append_left _ this
    case held =>
      intro p hp
      simp only [move_stage]
      rcases List.mem_append.1 hp with hp | hp
      · rw [if_neg (tells.2 p (h.mem_of_queue hp)).1]
        exact h.held p hp
      · rw [List.mem_singleton.1 hp, if_pos rfl]
        exact .waiting op id rfl
    case heard =>
      intro x hx
      rw [hserves] at hx
      simp only [move_stage]
      rw [if_neg (tells.2 _ (h.mem_of_served hx)).1]
      exact h.heard x hx
  · rw [List.append_nil]
    exact h

/-- Delivering moves one caller at most, from waiting to being told. -/
theorem deliver_cases (s : Crowd R) (c : Nat) (response : Option Response) :
    ∃ stage, s.deliver c response = { s with stage := stage } ∧ ∀ c',
      (stage c' = s.stage c' ∧ ∀ op id, s.stage c' = .waiting op id → c' ≠ c) ∨
      (c' = c ∧ ∃ op id, s.stage c' = .waiting op id ∧ stage c' = .told op id response) := by
  unfold deliver
  split
  · next op id hw =>
    refine ⟨_, rfl, fun c' => ?_⟩
    rcases eq_or_ne c' c with hc | hc
    · subst hc
      exact .inr ⟨rfl, op, id, hw, Function.update_self ..⟩
    · exact .inl ⟨Function.update_of_ne hc _ _, fun _ _ _ => hc⟩
  · next hw => exact ⟨_, rfl, fun c' => .inl ⟨rfl, fun op id hc e => hw op id (e ▸ hc)⟩⟩

/-- The caller of a request that is served hears of it. -/
theorem Held.heard {p : Posted} (held : Held p (s.stage p.caller)) (response : Option Response)
    (activity : Activity) :
    Heard ⟨p, response, activity⟩ ((s.deliver p.caller response).stage p.caller) := by
  unfold deliver
  cases hstage : s.stage p.caller with
  | waiting op id =>
    rw [hstage] at held
    cases held with
    | waiting _ _ own =>
      simp only [move_stage, if_true]
      exact .told op id own
  | dropped op id =>
    rw [hstage] at held
    cases held with
    | dropped _ _ own =>
      show Heard _ (s.stage p.caller)
      rw [hstage]
      exact .dropped op id own
  | _ =>
    rw [hstage] at held
    cases held

/-- A request gets the response that the context gives. -/
theorem Ledger.serve (h : Ledger sink s events) :
    Ledger sink s.serve.1 (events ++ s.serve.2) := by
  unfold Crowd.serve
  split
  · rw [List.append_nil]
    exact h
  · next p queue hq =>
    generalize hserve : s.context.serve s.sink p.request = result
    obtain ⟨context, response, activity⟩ := result
    have hposts := posts_served events ⟨p, response, activity⟩
    have hserves := serves_served events ⟨p, response, activity⟩
    have hp : p ∈ posts events := h.mem_of_queue (hq ▸ List.mem_cons_self)
    have hrequests : (serves events ++ [(⟨p, response, activity⟩ : Served)]).map
        (·.posted.request) = (serves events).map (·.posted.request) ++ [p.request] :=
      List.map_append
    rw [h.sink_eq, h.context] at hserve
    obtain ⟨stage, hstage, hcases⟩ :=
      deliver_cases { s with context := context, queue := queue } p.caller response
    show Ledger sink ({ s with context := context, queue := queue }.deliver p.caller response) _
    rw [hstage]
    constructor
    case sink_eq => exact h.sink_eq
    case queue =>
      rw [hposts, hserves, h.queue, hq, List.map_append, List.append_assoc]
      rfl
    case context =>
      rw [hserves, hrequests, Context.after_append]
      simp [Context.serveAll, hserve]
    case served =>
      rw [hserves]
      exact forall_take_concat (P := fun (before : List Served) (x : Served) =>
        (x.response, x.activity) = ((Context.after sink (before.map (·.posted.request)) :
          Context R).serve sink x.posted.request).2) h.served (by rw [hserve])
    case callers => rw [hposts]; exact h.callers
    case numbers => rw [hposts]; exact h.numbers
    case below => rw [hposts]; exact h.below
    case apart =>
      intro c₁ c₂ op₁ op₂ id h₁ h₂
      rcases hcases c₁ with ⟨e₁, -⟩ | ⟨-, _, _, -, e₁⟩
      · rcases hcases c₂ with ⟨e₂, -⟩ | ⟨-, _, _, -, e₂⟩
        · exact h.apart _ _ _ _ _ (e₁.symm.trans h₁) (e₂.symm.trans h₂)
        · cases e₂.symm.trans h₂
      · cases e₁.symm.trans h₁
    case tells =>
      intro c
      have tells := h.tells c
      rcases hcases c with ⟨e, hne⟩ | ⟨rfl, op, id, hwait, e⟩
      · show Tells _ _ c (stage c)
        rw [e]
        refine tells.mono (Nat.le_refl _) (fun p hp => .inl (hposts ▸ hp)) (fun p hp => hposts ▸ hp)
          (fun x hx => ?_) fun op id hs => ?_
        · rw [hserves]
          exact List.mem_append_left _ hx
        · rw [hs, Tells, hq] at tells
          rcases List.mem_cons.1 tells with hhead | htail
          · exact absurd (congrArg Posted.caller hhead) (hne op id hs)
          · exact htail
      · show Tells _ _ p.caller (stage p.caller)
        rw [e]
        rw [hwait] at tells
        refine ⟨⟨p, response, activity⟩, ?_, ?_, rfl⟩
        · rw [hserves]
          exact List.mem_append_right _ (List.mem_singleton_self _)
        · exact h.eq_of_caller hp (h.mem_of_queue tells) rfl
    case held =>
      intro q hq'
      have hmem : q ∈ s.queue := hq ▸ List.mem_cons_of_mem _ hq'
      show Held q (stage q.caller)
      rcases hcases q.caller with ⟨e, -⟩ | ⟨hc, -⟩
      · rw [e]
        exact h.held q hmem
      · exact absurd hc (h.caller_ne_head hq hq')
    case heard =>
      intro x hx
      rw [hserves] at hx
      show Heard x (stage x.posted.caller)
      rcases List.mem_append.1 hx with hx | hx
      · have heard := h.heard x hx
        rcases hcases x.posted.caller with ⟨e, -⟩ | ⟨-, op, id, hwait, -⟩
        · rw [e]
          exact heard
        · replace heard : Heard x (s.stage x.posted.caller) := heard
          rw [show s.stage x.posted.caller = _ from hwait] at heard
          cases heard
      · cases List.mem_singleton.1 hx
        have held := h.held p (hq ▸ List.mem_cons_self)
        have heard := Held.heard (s := { s with context := context, queue := queue }) held
          response activity
        rwa [hstage] at heard

theorem Ledger.collect_told (h : Ledger sink s events) {c id : Nat} {op : Operation}
    {response : Response} (hc : s.stage c = .told op id (some response)) :
    response.id = id ∧ op.answer? response.reply = some response.reply.answer := by
  have tells := h.tells c
  rw [hc] at tells
  obtain ⟨x, hx, hposted, hresponse⟩ := tells
  obtain ⟨k, hk⟩ := List.mem_iff_getElem?.1 hx
  have hserved := congrArg Prod.fst (h.served k x hk)
  rw [hposted, hresponse] at hserved
  obtain ⟨hid, registry, -, hreply⟩ := Context.serve_response hserved.symm
  exact ⟨hid, Registry.answer?_of_handle hreply⟩

theorem Ledger.collect_lost (h : Ledger sink s events) {c id : Nat} {op : Operation}
    (hc : s.stage c = .told op id none) : s.context = none := by
  have tells := h.tells c
  rw [hc] at tells
  obtain ⟨x, hx, -, hresponse⟩ := tells
  obtain ⟨k, hk⟩ := List.mem_iff_getElem?.1 hx
  have hserved := congrArg Prod.fst (h.served k x hk)
  have hlost := Context.serve_lost (hserved.symm.trans hresponse)
  -- the context is what the requests from there on leave of a lost one
  have hsplit : serves events = (serves events).take k ++ x :: (serves events).drop (k + 1) := by
    obtain ⟨hlt, rfl⟩ := List.getElem?_eq_some_iff.1 hk
    rw [← List.drop_eq_getElem_cons hlt, List.take_append_drop]
  rw [h.context, hsplit, List.map_append, List.map_cons, Context.after_append]
  simp only [Context.serveAll, hlost]
  exact Context.serveAll_none ..

/-- What an operation gives is what its request got. -/
theorem Ledger.settle (h : Ledger sink s events) {c id : Nat} {op : Operation}
    {response : Option Response} {closed : Bool} (hc : s.stage c = .told op id response) :
    Ledger sink { s.move c (.settled op (op.received response)) with closed := closed } events := by
  have tells := h.tells c
  rw [hc] at tells
  obtain ⟨x, hx, hposted, hresponse⟩ := tells
  refine h.move (Nat.le_refl _) (.inr ⟨x, hx, ?_, ?_, ?_⟩) nofun (fun p hp hcaller => ?_)
    fun y hy hcaller => ?_
  · rw [hposted]
  · rw [hposted]
  · rw [hresponse]
  · have held := h.held p hp
    rw [hcaller, hc] at held
    cases held
  · have heard := h.heard y hy
    rw [hcaller, hc] at heard
    cases heard with
    | told _ _ own => exact .settled op (congrArg Request.command own)

theorem Ledger.collect_eq (h : Ledger sink s events) {c id : Nat} {op : Operation}
    {response : Option Response} (hc : s.stage c = .told op id response) :
    s.collect c = { s.move c (.settled op (op.received response)) with
      closed := s.closed || response.isNone } := by
  cases response with
  | none => simp [collect, hc, lose, Operation.received]
  | some response =>
    obtain ⟨hid, hanswer⟩ := h.collect_told hc
    simp [collect, hc, hid, hanswer, Operation.received, Crowd.move]

theorem collect_of_not_told {c : Nat} (hc : ∀ op id response, s.stage c ≠ .told op id response) :
    s.collect c = s := by
  unfold collect
  split
  · next h => exact absurd h (hc _ _ _)
  · next h => exact absurd h (hc _ _ _)
  · rfl

theorem Ledger.collect (h : Ledger sink s events) (c : Nat) : Ledger sink (s.collect c) events := by
  by_cases hc : ∃ op id response, s.stage c = .told op id response
  · obtain ⟨op, id, response, hc⟩ := hc
    rw [h.collect_eq hc]
    exact h.settle hc
  · rw [collect_of_not_told fun op id response e => hc ⟨op, id, response, e⟩]
    exact h

theorem Ledger.drop (h : Ledger sink s events) (c : Nat) : Ledger sink (s.drop c) events := by
  have tells := h.tells c
  unfold Crowd.drop
  split
  · next op id hc =>
    rw [hc] at tells
    refine h.move (Nat.le_refl _) (h.mem_of_queue tells) nofun (fun p hp hcaller => ?_)
      fun x hx hcaller => ?_
    · have held := h.held p hp
      rw [hcaller, hc] at held
      cases held with
      | waiting _ _ own => exact .dropped op id own
    · have heard := h.heard x hx
      rw [hcaller, hc] at heard
      cases heard
  · next op id response hc =>
    rw [hc] at tells
    obtain ⟨x, hx, hposted, -⟩ := tells
    have hmem := h.mem_of_served hx
    rw [hposted] at hmem
    refine h.move (Nat.le_refl _) hmem nofun (fun p hp hcaller => ?_)
      fun y hy hcaller => ?_
    · have held := h.held p hp
      rw [hcaller, hc] at held
      cases held
    · have heard := h.heard y hy
      rw [hcaller, hc] at heard
      cases heard with
      | told _ _ own => exact .dropped op id own
  · exact h

/-- **Every turn keeps posted requests, served requests and callers in agreement.** -/
theorem ledger_step (h : Ledger sink s events) (t : Turn) :
    Ledger sink (s.step t).1 (events ++ (s.step t).2) := by
  have still {s' : Crowd R} (h' : Ledger sink s' events) : Ledger sink s' (events ++ []) := by
    rw [List.append_nil]
    exact h'
  cases t with
  | ask c op => exact still (h.ask c op)
  | number c => exact still (h.number c)
  | post c => exact h.post c
  | serve => exact h.serve
  | collect c => exact still (h.collect c)
  | drop c => exact still (h.drop c)

theorem ledger_history (h : Ledger sink s events) (ts : List Turn) :
    Ledger sink (s.after ts) (events ++ s.history ts) := by
  induction ts generalizing s events with
  | nil =>
    rw [history, List.append_nil]
    exact h
  | cons t ts ih =>
    rw [history, ← List.append_assoc]
    exact ih (ledger_step h t)

end Crowd

end ModuleHost
