import ModuleHost.Proofs.Host.Ledger
import ModuleHost.Proofs.Registry.Lifecycle

/-!
# First come, first served

* `Crowd.Alike` — hosts that post and serve alike from here on; `Crowd.history_of_attends`: whether
  callers wait makes no difference;
* `Crowd.Ledger.behind` — behind `terminate` nothing changes;
* `Crowd.exists_schedule` — any commands but `terminate` can be posted by callers that never
  terminate; `Crowd.Ledger.ahead`: ahead of `terminate` such a schedule does the same;
* `Crowd.FirstCome` — what every schedule shows, for replies, for `terminate` and for callers that
  give up;
* **`Crowd.firstCome_after`**: every schedule of turns shows it.
-/

namespace ModuleHost

variable {R : ControlRuntime}

/-! ## Callers that do not wait -/

/-- The stage of an operation that has yet to post; none for the others. -/
def Stage.ahead? : Stage → Option Stage
  | .idle => some .idle
  | .admitted op => some (.admitted op)
  | .numbered op id => some (.numbered op id)
  | .waiting .. | .told .. | .settled .. | .dropped .. => none

/-- Whether a turn is about a response. -/
def Turn.attends : Turn → Bool
  | .collect _ | .drop _ => true
  | .ask .. | .number _ | .post _ | .serve => false

namespace Crowd

/-- Two hosts that serve alike from here on. Once the context is lost, only the queue matters. -/
structure Alike (s s' : Crowd R) : Prop where
  sink : s.sink = s'.sink
  context : s.context = s'.context
  queue : s.queue = s'.queue
  going : s.context ≠ none → s.closed = s'.closed ∧ s.nextId = s'.nextId ∧
    ∀ c, (s.stage c).ahead? = (s'.stage c).ahead?

namespace Alike

variable {s s' s'' : Crowd R}

theorem refl (s : Crowd R) : Alike s s := ⟨rfl, rfl, rfl, fun _ => ⟨rfl, rfl, fun _ => rfl⟩⟩

theorem symm (h : Alike s s') : Alike s' s where
  sink := h.sink.symm
  context := h.context.symm
  queue := h.queue.symm
  going hc := by
    obtain ⟨closed, next, stage⟩ := h.going (h.context ▸ hc)
    exact ⟨closed.symm, next.symm, fun c => (stage c).symm⟩

theorem trans (h : Alike s s') (h' : Alike s' s'') : Alike s s'' where
  sink := h.sink.trans h'.sink
  context := h.context.trans h'.context
  queue := h.queue.trans h'.queue
  going hc := by
    obtain ⟨closed, next, stage⟩ := h.going hc
    obtain ⟨closed', next', stage'⟩ := h'.going (h.context ▸ hc)
    exact ⟨closed.trans closed', next.trans next', fun c => (stage c).trans (stage' c)⟩

/-- The operations of one caller differ at most once both have posted. -/
theorem stage_cases (h : Alike s s') (hc : s.context ≠ none) (c : Nat) :
    s.stage c = s'.stage c ∨ (s.stage c).ahead? = none ∧ (s'.stage c).ahead? = none := by
  have := (h.going hc).2.2 c
  cases hs : s.stage c <;> cases hs' : s'.stage c <;> simp_all [Stage.ahead?]

end Alike

variable {sink : Sink} {s s' : Crowd R} {events : List Event}

theorem alike_move {c : Nat} {stage : Stage} (hc : (s.stage c).ahead? = none)
    (hstage : stage.ahead? = none) : Alike (s.move c stage) s where
  sink := rfl
  context := rfl
  queue := rfl
  going _ := ⟨rfl, rfl, fun c' => by
    rw [move_stage]
    split
    · next e => rw [e, hc, hstage]
    · rfl⟩

theorem alike_drop (s : Crowd R) (c : Nat) : Alike (s.drop c) s := by
  unfold drop
  split
  · next hc => exact alike_move (by rw [hc]; rfl) rfl
  · next hc => exact alike_move (by rw [hc]; rfl) rfl
  · exact .refl s

theorem alike_deliver (s : Crowd R) (c : Nat) (response : Option Response) :
    Alike (s.deliver c response) s := by
  unfold deliver
  split
  · next hc => exact alike_move (by rw [hc]; rfl) rfl
  · exact .refl s

theorem Ledger.alike_collect (h : Ledger sink s events) (c : Nat) : Alike (s.collect c) s := by
  by_cases hc : ∃ op id response, s.stage c = .told op id response
  · obtain ⟨op, id, response, hc⟩ := hc
    rw [h.collect_eq hc]
    have hmove : Alike (s.move c (.settled op (op.received response))) s :=
      alike_move (by rw [hc]; rfl) rfl
    refine { hmove with going := fun hsome => ?_ }
    obtain ⟨-, next, stage⟩ := hmove.going hsome
    -- the gate shuts only over a context that is lost
    cases response with
    | none => exact absurd (h.collect_lost hc) hsome
    | some response => exact ⟨Bool.or_false _, next, stage⟩
  · rw [collect_of_not_told fun op id response e => hc ⟨op, id, response, e⟩]
    exact .refl s

/-! An operation that has posted moves neither at the gate nor at the queue. -/

theorem ask_of_posted {c : Nat} (hc : (s.stage c).ahead? = none) (op : Operation) :
    s.ask c op = s := by
  unfold ask
  split
  · next e => simp [e, Stage.ahead?] at hc
  · rfl

theorem number_of_posted {c : Nat} (hc : (s.stage c).ahead? = none) : s.number c = s := by
  unfold number
  split
  · next e => simp [e, Stage.ahead?] at hc
  · rfl

theorem post_of_posted {c : Nat} (hc : (s.stage c).ahead? = none) : s.post c = (s, []) := by
  unfold post
  split
  · next e _ => simp [e, Stage.ahead?] at hc
  · next e _ => simp [e, Stage.ahead?] at hc
  · rfl

/-- Two hosts whose callers move alike stay alike. -/
theorem Alike.move (h : Alike s s') (c : Nat) (stage : Stage) {closed closed' : Bool} {n n' : Nat}
    (hclosed : s.closed = s'.closed → closed = closed') (hnext : s.nextId = s'.nextId → n = n') :
    Alike { s.move c stage with closed := closed, nextId := n }
      { s'.move c stage with closed := closed', nextId := n' } where
  sink := h.sink
  context := h.context
  queue := h.queue
  going hc := by
    obtain ⟨hc₁, hc₂, hstage⟩ := h.going hc
    refine ⟨hclosed hc₁, hnext hc₂, fun c' => ?_⟩
    show ((s.move c stage).stage c').ahead? = ((s'.move c stage).stage c').ahead?
    rw [move_stage, move_stage]
    split
    · rfl
    · exact hstage c'

/-- A turn that leaves a host with a lost context alone, but for its callers. -/
theorem Alike.of_lost {t t' : Crowd R} (h : Alike s s') (hlost : s.context = none)
    (ht : t.sink = s.sink ∧ t.context = s.context ∧ t.queue = s.queue)
    (ht' : t'.sink = s'.sink ∧ t'.context = s'.context ∧ t'.queue = s'.queue) : Alike t t' where
  sink := ht.1.trans (h.sink.trans ht'.1.symm)
  context := ht.2.1.trans (h.context.trans ht'.2.1.symm)
  queue := ht.2.2.trans (h.queue.trans ht'.2.2.symm)
  going hc := absurd (ht.2.1.trans hlost) hc

theorem ask_keeps (s : Crowd R) (c : Nat) (op : Operation) :
    (s.ask c op).sink = s.sink ∧ (s.ask c op).context = s.context ∧
      (s.ask c op).queue = s.queue := by
  unfold ask
  split <;> exact ⟨rfl, rfl, rfl⟩

theorem number_keeps (s : Crowd R) (c : Nat) :
    (s.number c).sink = s.sink ∧ (s.number c).context = s.context ∧
      (s.number c).queue = s.queue := by
  unfold number
  split <;> exact ⟨rfl, rfl, rfl⟩

theorem post_of_lost (hlost : s.context = none) (c : Nat) :
    ((s.post c).1.sink = s.sink ∧ (s.post c).1.context = s.context ∧
      (s.post c).1.queue = s.queue) ∧ (s.post c).2 = [] := by
  unfold post
  split
  · exact ⟨⟨rfl, rfl, rfl⟩, rfl⟩
  · next hsome =>
    rw [hlost] at hsome
    cases hsome
  · exact ⟨⟨rfl, rfl, rfl⟩, rfl⟩

theorem Alike.ask (h : Alike s s') (c : Nat) (op : Operation) :
    Alike (s.ask c op) (s'.ask c op) := by
  by_cases hlost : s.context = none
  · exact h.of_lost hlost (s.ask_keeps c op) (s'.ask_keeps c op)
  · rcases h.stage_cases hlost c with hc | ⟨hc, hc'⟩
    · unfold Crowd.ask
      rw [hc, (h.going hlost).1]
      split
      · exact h.move c _ (fun _ => rfl) id
      · exact h
    · rw [ask_of_posted hc, ask_of_posted hc']
      exact h

theorem Alike.number (h : Alike s s') (c : Nat) : Alike (s.number c) (s'.number c) := by
  by_cases hlost : s.context = none
  · exact h.of_lost hlost (s.number_keeps c) (s'.number_keeps c)
  · rcases h.stage_cases hlost c with hc | ⟨hc, hc'⟩
    · unfold Crowd.number
      rw [hc, (h.going hlost).2.1]
      split
      · exact h.move c _ id fun _ => rfl
      · exact h
    · rw [number_of_posted hc, number_of_posted hc']
      exact h

theorem Alike.post (h : Alike s s') (c : Nat) :
    Alike (s.post c).1 (s'.post c).1 ∧ (s.post c).2 = (s'.post c).2 := by
  by_cases hlost : s.context = none
  · obtain ⟨hkeeps, hnone⟩ := post_of_lost hlost c
    obtain ⟨hkeeps', hnone'⟩ := post_of_lost (h.context ▸ hlost) c
    exact ⟨h.of_lost hlost hkeeps hkeeps', hnone.trans hnone'.symm⟩
  · rcases h.stage_cases hlost c with hc | ⟨hc, hc'⟩
    · unfold Crowd.post
      rw [hc, ← h.context]
      split
      · next hnone => exact absurd hnone hlost
      · next op id _ _ _ =>
        have hmove : Alike (s.move c (.waiting op id)) (s'.move c (.waiting op id)) :=
          h.move c _ (fun e => e) fun e => e
        refine ⟨{ hmove with queue := ?_ }, rfl⟩
        exact congrArg (· ++ _) h.queue
      · exact ⟨h, rfl⟩
    · rw [post_of_posted hc, post_of_posted hc']
      exact ⟨h, rfl⟩

theorem Alike.serve (h : Alike s s') : Alike s.serve.1 s'.serve.1 ∧ s.serve.2 = s'.serve.2 := by
  unfold Crowd.serve
  rw [← h.queue, ← h.sink, ← h.context]
  split
  · exact ⟨h, rfl⟩
  · next p queue _ =>
    generalize hserve : s.context.serve s.sink p.request = result
    obtain ⟨context, response, activity⟩ := result
    refine ⟨?_, rfl⟩
    refine ((alike_deliver _ _ _).trans ?_).trans (alike_deliver _ _ _).symm
    refine ⟨rfl, rfl, rfl, fun hsome => h.going fun hlost => hsome ?_⟩
    -- a lost context stays lost
    rw [hlost] at hserve
    exact (congrArg Prod.fst hserve).symm

/-- Hosts that serve alike do so after a turn of both. -/
theorem Alike.step {events' : List Event} (h : Alike s s') (hl : Ledger sink s events)
    (hl' : Ledger sink s' events') (t : Turn) :
    Alike (s.step t).1 (s'.step t).1 ∧ (s.step t).2 = (s'.step t).2 := by
  cases t with
  | ask c op => exact ⟨h.ask c op, rfl⟩
  | number c => exact ⟨h.number c, rfl⟩
  | post c => exact h.post c
  | serve => exact h.serve
  | collect c => exact ⟨(hl.alike_collect c).trans (h.trans (hl'.alike_collect c).symm), rfl⟩
  | drop c => exact ⟨(s.alike_drop c).trans (h.trans (s'.alike_drop c).symm), rfl⟩

/-- A turn about a response leaves the host alike. -/
theorem Ledger.alike_attends (h : Ledger sink s events) {t : Turn} (ht : t.attends = true) :
    Alike (s.step t).1 s ∧ (s.step t).2 = [] := by
  cases t with
  | ask | number | post | serve => cases ht
  | collect c => exact ⟨h.alike_collect c, rfl⟩
  | drop c => exact ⟨s.alike_drop c, rfl⟩

/-- Without the turns about responses a schedule posts and serves the same. -/
theorem Alike.after {events' : List Event} (h : Alike s s') (hl : Ledger sink s events)
    (hl' : Ledger sink s' events') (ts : List Turn) :
    Alike (s.after ts) (s'.after (ts.filter (!·.attends))) ∧
      s.history ts = s'.history (ts.filter (!·.attends)) := by
  induction ts generalizing s s' events events' with
  | nil => exact ⟨h, rfl⟩
  | cons t ts ih =>
    cases ht : t.attends with
    | true =>
      obtain ⟨halike, hnone⟩ := hl.alike_attends ht
      rw [List.filter_cons_of_neg (by simp [ht])]
      obtain ⟨hafter, hhistory⟩ := ih (halike.trans h) (ledger_step hl t) hl'
      refine ⟨hafter, ?_⟩
      rw [history, hnone]
      exact hhistory
    | false =>
      obtain ⟨halike, hsame⟩ := h.step hl hl' t
      rw [List.filter_cons_of_pos (by simp [ht])]
      obtain ⟨hafter, hhistory⟩ := ih halike (ledger_step hl t) (ledger_step hl' t)
      refine ⟨hafter, ?_⟩
      rw [history, history, hsame, hhistory]

/-- Schedules that differ in the turns about responses post and serve the same. -/
theorem history_of_attends (sink : Sink) {ts ts' : List Turn}
    (h : ts.filter (!·.attends) = ts'.filter (!·.attends)) :
    (start sink : Crowd R).history ts = (start sink : Crowd R).history ts' ∧
      ((start sink : Crowd R).after ts).context = ((start sink : Crowd R).after ts').context := by
  obtain ⟨hafter, hhistory⟩ :=
    (Alike.refl (start sink : Crowd R)).after (ledger_start sink) (ledger_start sink) ts
  obtain ⟨hafter', hhistory'⟩ :=
    (Alike.refl (start sink : Crowd R)).after (ledger_start sink) (ledger_start sink) ts'
  rw [h] at hafter hhistory
  exact ⟨hhistory.trans hhistory'.symm, hafter.context.trans hafter'.context.symm⟩

end Crowd

/-! ## Requests behind `terminate` -/

/-- Whether a command asks for work on services. -/
def Command.works : Command → Bool
  | .init _ | .createService .. | .callService .. => true
  | .serviceIds | .facadeOf _ | .terminate => false

/-- Whether a command is `terminate`. -/
def Command.closes : Command → Bool
  | .terminate => true
  | _ => false

theorem Registry.handle_of_terminated {r : Registry R} (ht : r.phase = .terminated) (sink : Sink)
    (c : Command) : ∃ reply, r.handle sink c = .still reply r ∧
      (c.works = true → reply.answer = .error .terminated) := by
  have gate : r.gate = .error .terminated := by rw [Registry.gate, ht]
  obtain ⟨hcreate, hcall⟩ := handle_of_gate gate sink
  cases c with
  | init control =>
    refine ⟨.done (.error .terminated), ?_, fun _ => rfl⟩
    simp [handle, Registry.init, ht, Outcome.map, Outcome.still]
  | createService id modules config envs => exact ⟨_, hcreate id modules config envs, fun _ => rfl⟩
  | callService id function args parameters =>
    exact ⟨_, hcall id function args parameters, fun _ => rfl⟩
  | serviceIds | facadeOf => exact ⟨_, rfl, fun h => absurd h Bool.false_ne_true⟩
  | terminate =>
    refine ⟨.done (.ok ()), ?_, fun h => absurd h Bool.false_ne_true⟩
    show r.terminate.map Reply.done = _
    rw [terminate_of_terminated ht]
    rfl

namespace Context

variable (sink : Sink)

theorem serve_of_terminated {r : Registry R} (ht : r.phase = .terminated) (request : Request) :
    ∃ reply, serve (some r) sink request = (some r, some ⟨request.id, reply⟩, {}) ∧
      (request.command.works = true → reply.answer = .error .terminated) := by
  obtain ⟨reply, hreply, hworks⟩ := Registry.handle_of_terminated ht sink request.command
  refine ⟨reply, ?_, hworks⟩
  simp only [serve, hreply, Outcome.still]

theorem serveAll_of_terminated {r : Registry R} (ht : r.phase = .terminated)
    (requests : List Request) : (serveAll (some r) sink requests).1 = some r := by
  induction requests with
  | nil => rfl
  | cons request requests ih =>
    obtain ⟨reply, hreply, -⟩ := serve_of_terminated sink ht request
    simp only [serveAll, hreply]
    exact ih

theorem serve_terminate (r : Registry R) {request : Request} (h : request.command = .terminate) :
    ∃ r', (serve (some r) sink request).1 = some r' ∧ r'.phase = .terminated := by
  simp only [serve, h, Registry.handle_terminate]
  exact ⟨_, rfl, r.terminate_phase⟩

/-- What a request gets depends on its command only, but for the number. -/
theorem serve_congr (c : Context R) {request request' : Request}
    (h : request.command = request'.command) :
    (c.serve sink request).1 = (c.serve sink request').1 ∧
      (c.serve sink request).2.1.map (·.reply) = (c.serve sink request').2.1.map (·.reply) ∧
      (c.serve sink request).2.2 = (c.serve sink request').2.2 := by
  cases c with
  | none => exact ⟨rfl, rfl, rfl⟩
  | some registry =>
    simp only [serve, h]
    cases (registry.handle sink request'.command).result <;> exact ⟨rfl, rfl, rfl⟩

theorem serveAll_congr (c : Context R) {requests requests' : List Request}
    (h : requests.map (·.command) = requests'.map (·.command)) :
    (serveAll c sink requests).1 = (serveAll c sink requests').1 := by
  induction requests generalizing c requests' with
  | nil =>
    cases requests' with
    | nil => rfl
    | cons => cases h
  | cons request requests ih =>
    cases requests' with
    | nil => cases h
    | cons request' requests' =>
      obtain ⟨hhead, htail⟩ := List.cons.inj h
      show (serveAll (serve c sink request).1 sink requests).1 =
        (serveAll (serve c sink request').1 sink requests').1
      rw [(serve_congr sink c hhead).1]
      exact ih _ htail

end Context

namespace Crowd

variable {sink : Sink} {s : Crowd R} {events : List Event}

/-! ## Draining the queue -/

theorem deliver_queue (s : Crowd R) (c : Nat) (response : Option Response) :
    (s.deliver c response).queue = s.queue := by
  unfold deliver
  split <;> rfl

theorem serve_queue (s : Crowd R) : s.serve.1.queue = s.queue.tail ∧ posts s.serve.2 = [] := by
  unfold serve
  split
  · next h => exact ⟨by rw [h]; rfl, rfl⟩
  · next h => exact ⟨by rw [deliver_queue, h]; rfl, rfl⟩

theorem queue_serves (s : Crowd R) (n : Nat) :
    (s.after (.replicate n .serve)).queue = s.queue.drop n ∧
      posts (s.history (.replicate n .serve)) = [] := by
  induction n generalizing s with
  | zero => exact ⟨rfl, rfl⟩
  | succ n ih =>
    obtain ⟨hqueue, hposts⟩ := s.serve_queue
    obtain ⟨hrest, hmore⟩ := ih s.serve.1
    refine ⟨?_, ?_⟩
    · show (s.serve.1.after (.replicate n .serve)).queue = _
      rw [hrest, hqueue, List.drop_tail, Nat.add_comm]
    · show posts (s.serve.2 ++ s.serve.1.history (.replicate n .serve)) = []
      rw [posts_append, hposts, hmore]
      rfl

/-- As many turns as requests wait serve them all. -/
theorem Ledger.drains (h : Ledger sink s events) :
    let turns := List.replicate s.queue.length Turn.serve
    (s.after turns).queue = [] ∧
      (serves (events ++ s.history turns)).map (·.posted) = posts events := by
  obtain ⟨hqueue, hposts⟩ := s.queue_serves s.queue.length
  rw [List.drop_length] at hqueue
  refine ⟨hqueue, ?_⟩
  have := (ledger_history h (.replicate s.queue.length .serve)).queue
  rw [posts_append, hposts, List.append_nil, hqueue, List.append_nil] at this
  exact this.symm

/-! ## A schedule without `terminate` -/

/-- One operation after the other is posted, each by a caller of its own. -/
def bids : Nat → List Operation → List Turn
  | _, [] => []
  | c, op :: ops => .ask c op :: .number c :: .post c :: bids (c + 1) ops

theorem ask_not_mem_bids {ops : List Operation} {op : Operation} (h : op ∉ ops) (c n : Nat) :
    Turn.ask c op ∉ bids n ops := by
  induction ops generalizing n with
  | nil => exact List.not_mem_nil
  | cons op' ops ih =>
    obtain ⟨hne, hrest⟩ := not_or.1 (mt List.mem_cons.2 h)
    simp only [bids, List.mem_cons, not_or, reduceCtorEq, not_false_eq_true, true_and]
    exact ⟨fun e => hne (Turn.ask.inj e).2, ih hrest _⟩

theorem history_bids {n : Nat} (hopen : s.closed = false) {r : Registry R}
    (hr : s.context = some r) (hidle : ∀ c, n ≤ c → s.stage c = .idle) {ops : List Operation}
    (hops : ∀ op ∈ ops, op.closes = false) :
    (posts (s.history (bids n ops))).map (·.request.command) = ops.map (·.command) ∧
      serves (s.history (bids n ops)) = [] := by
  induction ops generalizing s n with
  | nil => exact ⟨rfl, rfl⟩
  | cons op ops ih =>
    have hop : op.closes = false := hops op List.mem_cons_self
    -- the stage that this caller leaves keeps the others idle
    let p : Posted := ⟨n, ⟨s.nextId, op.command⟩⟩
    let s' : Crowd R := { ((s.move n (.admitted op)).move n (.numbered op s.nextId)).move n
      (.waiting op s.nextId) with nextId := s.nextId + 1, queue := s.queue ++ [p] }
    have hask : s.ask n op = s.move n (.admitted op) := by
      simp [ask, hidle n (Nat.le_refl n), hopen, hop, Crowd.move]
    have hnumber : (s.ask n op).number n = { (s.move n (.admitted op)).move n
        (.numbered op s.nextId) with nextId := s.nextId + 1 } := by
      simp [hask, number, Crowd.move]
    have hpost : ((s.ask n op).number n).post n = (s', [.posted p]) := by
      simp [hnumber, post, Crowd.move, hr, s', p]
    have hhistory : s.history (bids n (op :: ops)) =
        .posted p :: s'.history (bids (n + 1) ops) := by
      simp [bids, history, step, hpost]
    obtain ⟨hposts, hserves⟩ := ih (s := s') (n := n + 1) hopen hr
      (fun c hc => by
        have hne : c ≠ n := by omega
        show (((s.move n _).move n _).move n _).stage c = .idle
        simp only [move_stage, if_neg hne]
        exact hidle c (by omega))
      (fun op hmem => hops op (List.mem_cons_of_mem _ hmem))
    rw [hhistory]
    refine ⟨?_, hserves⟩
    show op.command :: (posts (s'.history _)).map _ = _
    rw [hposts]
    rfl

end Crowd

/-- An operation with a command. -/
def Command.operation : Command → Operation
  | .init control => .init control
  | .createService id modules config envs => .createService id modules config envs
  | .callService id function args parameters => .callService id function args (some parameters)
  | .serviceIds => .serviceIds
  | .facadeOf id => .facadeOf id
  | .terminate => .terminate

theorem Command.operation_command (c : Command) : c.operation.command = c := by
  cases c <;> rfl

theorem Command.operation_closes (c : Command) : c.operation.closes = c.closes := by
  cases c <;> rfl

namespace Crowd

variable {sink : Sink}

/-- There is a schedule that posts and serves any commands but `terminate`, in which nobody
terminates. -/
theorem exists_schedule (sink : Sink) {commands : List Command}
    (h : ∀ c ∈ commands, c.closes = false) :
    ∃ turns : List Turn, (∀ c, Turn.ask c .terminate ∉ turns) ∧
      (posts ((start sink : Crowd R).history turns)).map (·.request.command) = commands ∧
      (serves ((start sink : Crowd R).history turns)).map (·.posted) =
        posts ((start sink : Crowd R).history turns) := by
  let bidding := bids 0 (commands.map (·.operation))
  have hops : ∀ op ∈ commands.map (·.operation), op.closes = false := by
    intro op hop
    obtain ⟨c, hc, rfl⟩ := List.mem_map.1 hop
    rw [Command.operation_closes]
    exact h c hc
  have hnever : Operation.terminate ∉ commands.map (·.operation) :=
    fun hmem => Bool.false_ne_true (hops _ hmem).symm
  obtain ⟨hposts, -⟩ := history_bids (s := (start sink : Crowd R)) (n := 0) rfl rfl
    (fun _ _ => rfl) hops
  have hledger := ledger_history (ledger_start sink : Ledger sink (start sink : Crowd R) []) bidding
  obtain ⟨-, hdrains⟩ := hledger.drains
  obtain ⟨-, hquiet⟩ := ((start sink : Crowd R).after bidding).queue_serves
    ((start sink : Crowd R).after bidding).queue.length
  refine ⟨bidding ++ .replicate ((start sink : Crowd R).after bidding).queue.length .serve,
    fun c hmem => ?_, ?_, ?_⟩
  · rcases List.mem_append.1 hmem with hmem | hmem
    · exact ask_not_mem_bids hnever c 0 hmem
    · cases (List.mem_replicate.1 hmem).2
  · rw [history_append, posts_append, hquiet, List.append_nil, hposts, List.map_map]
    exact (List.map_congr_left fun c _ => c.operation_command).trans (List.map_id _)
  · rw [history_append, posts_append, hquiet, List.append_nil]
    exact hdrains

/-! ## Schedules -/

/-- What a schedule of turns shows, if it leaves the crowd `s` and the history `events`. -/
structure FirstCome (sink : Sink) (turns : List Turn) (s : Crowd R) (events : List Event) :
    Prop where
  /-- Requests are served in the order in which they were posted, each at most once. -/
  queue : posts events = (serves events).map (·.posted) ++ s.queue
  callers : ((posts events).map (·.caller)).Nodup
  numbers : ((posts events).map (·.request.id)).Nodup
  /-- As many turns of the context as requests wait serve all that was posted. -/
  drains : let turns := List.replicate s.queue.length Turn.serve
    (s.after turns).queue = [] ∧
      (serves (events ++ s.history turns)).map (·.posted) = posts events
  /-- The context is what the served requests made of it. -/
  context : s.context = Context.after sink ((serves events).map (·.posted.request))
  /-- A request gets what the context gives that the requests before it leave. -/
  served : ∀ k x, (serves events)[k]? = some x →
    (x.response, x.activity) = ((Context.after sink (((posts events).take k).map
      (·.request)) : Context R).serve sink x.posted.request).2
  /-- A response has the number of its request. -/
  number : ∀ x ∈ serves events, ∀ r, x.response = some r → r.id = x.posted.request.id
  /-- What became of a request is with the caller that posted it, unless that gave it up. -/
  heard : ∀ x ∈ serves events, Heard x (s.stage x.posted.caller)
  /-- Nobody else's is: what an operation was told or gives is what its own request got, or it was
  refused without posting one. -/
  own : ∀ c, s.Tells events c (s.stage c)
  /-- What a request gets is the same in all schedules that post the same commands up to it. -/
  alike : ∀ turns' k x x', let events' := (start sink : Crowd R).history turns'
    ((posts events).take (k + 1)).map (·.request.command) =
        ((posts events').take (k + 1)).map (·.request.command) →
      (serves events)[k]? = some x → (serves events')[k]? = some x' →
      x.response.map (·.reply) = x'.response.map (·.reply) ∧ x.activity = x'.activity
  /-- Ahead of `terminate`, requests get what they get in a schedule in which nobody terminates. -/
  ahead : ∃ turns', let events' := (start sink : Crowd R).history turns'
    (∀ c, Turn.ask c .terminate ∉ turns') ∧
      (posts events').map (·.request.command) =
        ((posts events).map (·.request.command)).filter (!·.closes) ∧
      ∀ k x, (serves events)[k]? = some x →
        (∀ p ∈ (posts events).take (k + 1), p.request.command.closes = false) →
        ∃ x', (serves events')[k]? = some x' ∧
          x'.posted.request.command = x.posted.request.command ∧
          x'.response.map (·.reply) = x.response.map (·.reply) ∧ x'.activity = x.activity
  /-- Behind `terminate`, requests change nothing, and those that ask for work are answered that the
  host is terminated; unless the context was lost before. -/
  behind : ∀ j k p x, (posts events)[j]? = some p → p.request.command = .terminate →
    Context.after sink (((posts events).take j).map (·.request)) ≠ (none : Context R) →
    j < k → (serves events)[k]? = some x →
      (Context.after sink (((posts events).take (k + 1)).map (·.request)) : Context R) =
        Context.after sink (((posts events).take k).map (·.request)) ∧
      x.activity = {} ∧ ∃ reply, x.response = some ⟨x.posted.request.id, reply⟩ ∧
        (x.posted.request.command.works = true → reply.answer = .error .terminated)
  /-- Whether callers wait for responses makes no difference to what is posted and served. -/
  waits : ∀ turns', turns'.filter (!·.attends) = turns.filter (!·.attends) →
    (start sink : Crowd R).history turns' = events ∧
      ((start sink : Crowd R).after turns').context = s.context

variable {s : Crowd R} {events events' : List Event}

theorem Ledger.take_serves (h : Ledger sink s events) {k : Nat} (hk : k ≤ (serves events).length) :
    ((serves events).take k).map (·.posted) = (posts events).take k := by
  rw [h.queue, List.take_append_of_le_length (by rwa [List.length_map]), List.map_take]

theorem Ledger.posts_getElem? (h : Ledger sink s events) {k : Nat} {x : Served}
    (hx : (serves events)[k]? = some x) : (posts events)[k]? = some x.posted := by
  obtain ⟨hk, -⟩ := List.getElem?_eq_some_iff.1 hx
  rw [h.queue, List.getElem?_append_left (by rwa [List.length_map]), List.getElem?_map, hx]
  rfl

theorem Ledger.served_posts (h : Ledger sink s events) {k : Nat} {x : Served}
    (hx : (serves events)[k]? = some x) :
    (x.response, x.activity) = ((Context.after sink (((posts events).take k).map
      (·.request)) : Context R).serve sink x.posted.request).2 := by
  obtain ⟨hk, -⟩ := List.getElem?_eq_some_iff.1 hx
  rw [h.served k x hx, ← h.take_serves (Nat.le_of_lt hk), List.map_map]
  rfl

/-- The same commands get the same. -/
theorem Ledger.alike {s' : Crowd R} (h : Ledger sink s events) (h' : Ledger sink s' events')
    {k : Nat} {x x' : Served}
    (hsame : ((posts events).take (k + 1)).map (·.request.command) =
      ((posts events').take (k + 1)).map (·.request.command))
    (hx : (serves events)[k]? = some x) (hx' : (serves events')[k]? = some x') :
    x.posted.request.command = x'.posted.request.command ∧
      x.response.map (·.reply) = x'.response.map (·.reply) ∧ x.activity = x'.activity := by
  have hserved := h.served_posts hx
  have hserved' := h'.served_posts hx'
  rw [List.take_add_one, List.take_add_one, h.posts_getElem? hx, h'.posts_getElem? hx',
    List.map_append, List.map_append] at hsame
  obtain ⟨hbefore, hcommand⟩ := List.append_inj' hsame rfl
  replace hcommand : x.posted.request.command = x'.posted.request.command :=
    (List.cons.inj hcommand).1
  have hcontext : (Context.after sink (((posts events).take k).map (·.request)) : Context R) =
      Context.after sink (((posts events').take k).map (·.request)) := by
    refine Context.serveAll_congr sink _ ?_
    rw [List.map_map, List.map_map]
    exact hbefore
  rw [hcontext] at hserved
  obtain ⟨-, hreply, hactivity⟩ := Context.serve_congr sink
    (Context.after sink (((posts events').take k).map (·.request)) : Context R) hcommand
  rw [← hserved, ← hserved'] at hreply hactivity
  exact ⟨hcommand, hreply, hactivity⟩

/-- Behind `terminate` nothing changes. -/
theorem Ledger.behind (h : Ledger sink s events) {j k : Nat} {p : Posted} {x : Served}
    (hp : (posts events)[j]? = some p) (hterminate : p.request.command = .terminate)
    (hsome : Context.after sink (((posts events).take j).map (·.request)) ≠ (none : Context R))
    (hjk : j < k) (hx : (serves events)[k]? = some x) :
    (Context.after sink (((posts events).take (k + 1)).map (·.request)) : Context R) =
        Context.after sink (((posts events).take k).map (·.request)) ∧
      x.activity = {} ∧ ∃ reply, x.response = some ⟨x.posted.request.id, reply⟩ ∧
        (x.posted.request.command.works = true → reply.answer = .error .terminated) := by
  obtain ⟨r, hr⟩ := Option.ne_none_iff_exists'.1 hsome
  obtain ⟨r', hr', hphase⟩ := Context.serve_terminate sink r hterminate
  -- from the terminate on, the context is a terminated registry
  have hcontext : (Context.after sink (((posts events).take k).map (·.request)) : Context R) =
      some r' := by
    have hsplit : (posts events).take k =
        (posts events).take j ++ p :: ((posts events).take k).drop (j + 1) := by
      have hpk : ((posts events).take k)[j]? = some p := by rw [List.getElem?_take, if_pos hjk, hp]
      obtain ⟨hlt, hget⟩ := List.getElem?_eq_some_iff.1 hpk
      conv_lhs => rw [← List.take_append_drop j ((posts events).take k)]
      rw [List.drop_eq_getElem_cons hlt, hget, List.take_take, Nat.min_eq_left (Nat.le_of_lt hjk)]
    rw [hsplit, List.map_append, List.map_cons, Context.after_append, hr]
    simp only [Context.serveAll, hr']
    exact Context.serveAll_of_terminated sink hphase _
  obtain ⟨reply, hreply, hworks⟩ :=
    Context.serve_of_terminated sink hphase x.posted.request
  have hserved := h.served_posts hx
  rw [hcontext, hreply] at hserved
  obtain ⟨hresponse, hactivity⟩ := Prod.mk.inj hserved
  refine ⟨?_, hactivity, reply, hresponse, hworks⟩
  rw [List.take_add_one, h.posts_getElem? hx, List.map_append, Context.after_append, hcontext]
  exact Context.serveAll_of_terminated sink hphase _

/-- Ahead of `terminate` a schedule does the same in which nobody terminates. -/
theorem Ledger.ahead (h : Ledger sink s events) : ∃ turns',
    let events' := (start sink : Crowd R).history turns'
    (∀ c, Turn.ask c .terminate ∉ turns') ∧
      (posts events').map (·.request.command) =
        ((posts events).map (·.request.command)).filter (!·.closes) ∧
      ∀ k x, (serves events)[k]? = some x →
        (∀ p ∈ (posts events).take (k + 1), p.request.command.closes = false) →
        ∃ x', (serves events')[k]? = some x' ∧
          x'.posted.request.command = x.posted.request.command ∧
          x'.response.map (·.reply) = x.response.map (·.reply) ∧ x'.activity = x.activity := by
  have hworking : ∀ c ∈ ((posts events).map (·.request.command)).filter (!·.closes),
      c.closes = false := fun c hc => by simpa using (List.mem_filter.1 hc).2
  obtain ⟨turns', hnever, hcommands, hall⟩ := exists_schedule (R := R) sink hworking
  refine ⟨turns', hnever, hcommands, fun k x hx hopen => ?_⟩
  have h' := ledger_history (ledger_start sink : Ledger sink (start sink : Crowd R) []) turns'
  rw [List.nil_append] at h'
  generalize (start sink : Crowd R).history turns' = events' at h' hcommands hall ⊢
  have hk : k < (posts events).length := (List.getElem?_eq_some_iff.1 (h.posts_getElem? hx)).1
  -- up to this request nothing is left out
  have hsame : ((posts events).take (k + 1)).map (·.request.command) =
      ((posts events').take (k + 1)).map (·.request.command) := by
    rw [List.map_take (l := posts events'), hcommands]
    conv_rhs => rw [← List.take_append_drop (k + 1) (posts events)]
    rw [List.map_append, List.filter_append, List.filter_eq_self.2, List.take_left']
    · rw [List.length_map, List.length_take, Nat.min_eq_left hk]
    · intro c hc
      obtain ⟨p, hp, rfl⟩ := List.mem_map.1 hc
      rw [hopen p hp]
      rfl
  have hlength : k < (serves events').length := by
    have := congrArg List.length hsame
    rw [← List.length_map (f := (·.posted)), hall]
    simp only [List.length_map, List.length_take] at this
    omega
  obtain ⟨hcommand, hreply, hactivity⟩ :=
    h.alike h' hsame hx (List.getElem?_eq_getElem hlength)
  exact ⟨_, List.getElem?_eq_getElem hlength, hcommand.symm, hreply.symm, hactivity.symm⟩

/-- **Whatever the turns of its callers, a host serves first come, first served.** -/
theorem firstCome_after (sink : Sink) (turns : List Turn) :
    FirstCome sink turns ((start sink : Crowd R).after turns)
      ((start sink : Crowd R).history turns) := by
  have ledger (turns : List Turn) : Ledger sink ((start sink : Crowd R).after turns)
      ((start sink : Crowd R).history turns) := ledger_history (ledger_start sink) turns
  have h := ledger turns
  constructor
  case queue => exact h.queue
  case callers => exact h.callers
  case numbers => exact h.numbers
  case drains => exact h.drains
  case context => exact h.context
  case served => exact fun k x hx => h.served_posts hx
  case number =>
    intro x hx r hr
    obtain ⟨k, hk⟩ := List.mem_iff_getElem?.1 hx
    have hserved := congrArg Prod.fst (h.served k x hk)
    exact (Context.serve_response (hserved.symm.trans hr)).1
  case heard => exact h.heard
  case own => exact h.tells
  case alike => exact fun turns' k x x' hsame hx hx' => (h.alike (ledger turns') hsame hx hx').2
  case ahead => exact h.ahead
  case behind => exact fun j k p x hp hterminate hsome hjk hx => h.behind hp hterminate hsome hjk hx
  case waits => exact fun turns' hsame => history_of_attends sink hsame

end Crowd

end ModuleHost
