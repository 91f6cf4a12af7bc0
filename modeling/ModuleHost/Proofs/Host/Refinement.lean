import Mathlib.Data.List.Induction
import ModuleHost.Host.Basic
import ModuleHost.Proofs.Registry.Run

/-!
# The host refines the registry

Operations that are awaited one after another find a host either idle, with its registry as the
commands before have left it, or closed for good.

* `Reply.answer` — the answer that a reply holds;
* `Host.idle`, `Host.afterOps`, `Host.answers` — a host that waits; the host that operations leave;
  what they give;
* `Host.run_idle`, `Host.run_closed` — one operation;
* `Host.Stands` — a host is idle or closed for good; **`Host.Stands.run`**: so it stays;
* `Host.Refines` — what a host shows after operations;
* **`Host.refines_after`**: it shows that after every sequence of operations from the start.
-/

namespace ModuleHost

/-! ## Replies -/

/-- The answer that a reply holds. -/
def Reply.answer : Reply → Except HostError Answer
  | .done result => result.map fun _ => .done
  | .value result => result.map .value
  | .serviceIds ids => .ok (.serviceIds ids)
  | .facade name => .ok (.facade name)

/-- What a closed host answers. -/
def Operation.refusal : Operation → Except HostError Answer
  | .terminate => .ok .done
  | _ => .error .terminated

/-- Whether an operation closes the gate. -/
def Operation.closes : Operation → Bool
  | .terminate => true
  | _ => false

namespace Registry

variable {R : ControlRuntime} {r : Registry R} {sink : Sink}

theorem handle_terminate : (r.handle sink .terminate).result = some (.done (.ok ())) := by
  show Option.map Reply.done r.terminate.result = _
  unfold terminate
  split <;> rfl

theorem answer?_of_handle {op : Operation} {reply : Reply}
    (h : (r.handle sink op.command).result = some reply) :
    op.answer? reply = some reply.answer := by
  cases op with
  | init | createService | callService =>
    obtain ⟨result, -, rfl⟩ := Option.map_eq_some_iff.1 h
    rfl
  | serviceIds | facadeOf =>
    cases h
    rfl
  | terminate =>
    rw [Operation.command, handle_terminate] at h
    cases h
    rfl

/-! A registry never tells that its context is lost: only the host can see that. -/

theorem gate_ne_contextLost (r : Registry R) : r.gate ≠ .error .contextLost := by
  rw [gate]
  cases r.phase <;> simp

theorem ready_ne_contextLost (r : Registry R) : r.ready ≠ .error .contextLost := by
  unfold ready gate
  cases r.phase <;> cases r.runtime <;> simp

theorem init_ne_contextLost (r : Registry R) (control : Bytes) :
    (r.init control).result ≠ some (.error .contextLost) := by
  unfold init
  cases r.phase with
  | initialized | terminated => simp [Outcome.still]
  | uninitialized => cases R.compile control <;> simp

theorem createService_ne_contextLost (r : Registry R) (d : ServiceDescriptor) (sink : Sink) :
    (r.createService d sink).result ≠ some (.error .contextLost) := by
  unfold createService
  cases hr : r.ready with
  | error e =>
    have he := hr ▸ r.ready_ne_contextLost
    simpa [Outcome.still] using he
  | ok s =>
    cases d.facadeName? with
    | none => simp [Outcome.still]
    | some facade =>
      rcases hs : (R.register s d sink).result with _ | e | h
      · simp [register, hs]
      · simp [register, hs]
      · simp [register, hs]

theorem resolveAndCreate_ne_contextLost (r : Registry R) (sink : Sink) (id : String)
    (modules : ModuleSet) (config : Option ServiceConfig) (envs : Option Envs) :
    (r.resolveAndCreate sink id modules config envs).result ≠ some (.error .contextLost) := by
  unfold resolveAndCreate
  cases hg : r.gate with
  | error e =>
    have he := hg ▸ r.gate_ne_contextLost
    simpa [Outcome.still] using he
  | ok u =>
    cases ServiceDescriptor.resolve id modules config envs with
    | error e => simp [Outcome.still]
    | ok d => exact createService_ne_contextLost r d sink

theorem readAnswer_ne_contextLost (function : String) (answer : Except RuntimeError String) :
    readAnswer function answer ≠ .error .contextLost := by
  cases answer with
  | error cause => cases cause <;> simp [readAnswer, HostError.ofRuntime]
  | ok raw =>
    rw [readAnswer, readReply]
    split
    · simp
    · split <;> simp

theorem callService_ne_contextLost (r : Registry R) (id function : String) (args : CallArgs)
    (parameters : CallParameters) :
    (r.callService id function args parameters).result ≠ some (.error .contextLost) := by
  unfold callService
  cases hr : r.ready with
  | error e =>
    have he := hr ▸ r.ready_ne_contextLost
    simpa [Outcome.still] using he
  | ok s =>
    cases r.services.get? id with
    | none => simp [Outcome.still]
    | some entry =>
      cases args.encode with
      | error e => simp [Outcome.still]
      | ok arguments =>
        intro h
        obtain ⟨answer, -, hanswer⟩ := Option.map_eq_some_iff.1 h
        exact readAnswer_ne_contextLost function answer hanswer

theorem answer_ne_contextLost {c : Command} {reply : Reply}
    (h : (r.handle sink c).result = some reply) : reply.answer ≠ .error .contextLost := by
  have done {result : Except HostError Unit} (hne : result ≠ .error .contextLost) :
      (Reply.done result).answer ≠ .error .contextLost := by
    cases result with
    | ok => exact fun he => nomatch he
    | error e => exact fun he => hne (by cases he; rfl)
  have value {result : Except HostError Value} (hne : result ≠ .error .contextLost) :
      (Reply.value result).answer ≠ .error .contextLost := by
    cases result with
    | ok => exact fun he => nomatch he
    | error e => exact fun he => hne (by cases he; rfl)
  cases c with
  | init control =>
    obtain ⟨result, hresult, rfl⟩ := Option.map_eq_some_iff.1 h
    exact done fun he => r.init_ne_contextLost control.bytes (he ▸ hresult)
  | createService id modules config envs =>
    obtain ⟨result, hresult, rfl⟩ := Option.map_eq_some_iff.1 h
    exact done fun he =>
      r.resolveAndCreate_ne_contextLost sink id modules config envs (he ▸ hresult)
  | callService id function args parameters =>
    obtain ⟨result, hresult, rfl⟩ := Option.map_eq_some_iff.1 h
    exact value fun he => r.callService_ne_contextLost id function args parameters (he ▸ hresult)
  | serviceIds | facadeOf =>
    cases h
    exact fun he => nomatch he
  | terminate =>
    rw [handle_terminate] at h
    cases h
    exact fun he => nomatch he

end Registry

namespace Host

variable {R : ControlRuntime}

/-- A host that waits for its next operation. -/
def idle (sink : Sink) (registry : Registry R) (nextId : Nat) : Host R :=
  { sink := sink, nextId := nextId, context := some registry }

/-- The host that operations in order leave. -/
def afterOps (h : Host R) : List Operation → Host R
  | [] => h
  | op :: ops => (h.run op).2.1.afterOps ops

/-- What operations in order give. -/
def answers (h : Host R) : List Operation → List (Except HostError Answer)
  | [] => []
  | op :: ops => (h.run op).1 :: (h.run op).2.1.answers ops

theorem afterOps_append (h : Host R) (ops ops' : List Operation) :
    h.afterOps (ops ++ ops') = (h.afterOps ops).afterOps ops' := by
  induction ops generalizing h with
  | nil => rfl
  | cons op ops ih => exact ih _

theorem answers_append (h : Host R) (ops ops' : List Operation) :
    h.answers (ops ++ ops') = h.answers ops ++ (h.afterOps ops).answers ops' := by
  induction ops generalizing h with
  | nil => rfl
  | cons op ops ih => exact congrArg ((h.run op).1 :: ·) (ih _)

/-! ## One operation -/

theorem run_closed {h : Host R} (closed : h.closed = true) (queue : h.queue = []) (op : Operation) :
    h.run op = (op.refusal, h, {}) := by
  obtain ⟨sink, _, nextId, context, _, responses⟩ := h
  cases closed
  cases queue
  cases op <;> simp [run, submit, drain, Context.serveAll, collect, Operation.refusal]

/-- An operation on an idle host waits under the next number, alone in the queue. -/
theorem submit_idle (sink : Sink) (r : Registry R) (n : Nat) (op : Operation) :
    (idle sink r n).submit op = (.waiting n,
      { sink := sink, closed := op.closes, nextId := n + 1, context := some r,
        queue := [⟨n, op.command⟩] }) := by
  cases op <;> rfl

/-- The registry handles the command; its response has the number of the request. -/
theorem drain_submit_idle (sink : Sink) (r : Registry R) (n : Nat) (op : Operation) :
    ((idle sink r n).submit op).2.drain =
      let o := r.handle sink op.command
      ({ sink := sink, closed := op.closes, nextId := n + 1,
          context := o.result.map (fun _ => o.registry),
          responses := (o.result.map fun reply => ⟨n, reply⟩).toList },
        o.activity) := by
  have hactivity (a : Activity) : a ++ ({} : Activity) = a := by
    obtain ⟨records, traffic⟩ := a
    show Activity.append _ _ = _
    simp [Activity.append]
  rw [submit_idle]
  cases ho : (r.handle sink op.command).result with
  | none => simp [drain, Context.serveAll, Context.serve, ho, hactivity]
  | some reply => simp [drain, Context.serveAll, Context.serve, ho, hactivity]

/-- An operation on an idle host gives the answer of the registry, unless that breaks down. -/
theorem run_idle (sink : Sink) (r : Registry R) (n : Nat) (op : Operation) :
    (idle sink r n).run op =
      let o := r.handle sink op.command
      match o.result with
      | some reply => (reply.answer, { idle sink o.registry (n + 1) with closed := op.closes },
          o.activity)
      | none => (.error .contextLost,
          { sink := sink, closed := true, nextId := n + 1, context := none }, o.activity) := by
  have hdrain := drain_submit_idle sink r n op
  rw [submit_idle] at hdrain
  rw [run, submit_idle]
  simp only [hdrain]
  cases ho : (r.handle sink op.command).result with
  | none =>
    have hop : lostAnswer op = .error .contextLost := by
      cases op with
      | terminate =>
        rw [Operation.command, Registry.handle_terminate] at ho
        cases ho
      | _ => rfl
    simp [collect, hop, lose]
  | some reply =>
    simp [collect, Registry.answer?_of_handle ho, idle]

/-! ## Sequences of operations -/

/-- A host at its start. -/
def start (sink : Sink) : Host R := idle sink .uninitialized 1

/-- The commands of operations, as operations of a registry. -/
def commands (sink : Sink) (ops : List Operation) : List Action :=
  ops.map fun op => .serve sink op.command

/-- Whether operations ended the work of a host. -/
def Ended (R : ControlRuntime) (sink : Sink) (ops : List Operation) : Prop :=
  (∃ op ∈ ops, op.closes = true) ∨
    .error .contextLost ∈ (start sink : Host R).answers ops

/-- A host is idle or closed for good. -/
inductive Stands (sink : Sink) (ops : List Operation) : Host R → Prop where
  | idle (n : Nat) (going : ¬Ended R sink ops) :
      Stands sink ops (Host.idle sink (Registry.uninitialized.after (commands sink ops)) n)
  | closed {h : Host R} (ended : Ended R sink ops) (closed : h.closed = true)
      (queue : h.queue = []) : Stands sink ops h

/-- One more operation ends the work if it closes the gate or loses the context. -/
theorem ended_append_singleton (sink : Sink) (ops : List Operation) (op : Operation) :
    Ended R sink (ops ++ [op]) ↔ Ended R sink ops ∨ op.closes = true ∨
      (((start sink : Host R).afterOps ops).run op).1 = .error .contextLost := by
  simp only [Ended, answers_append, answers, List.mem_append, List.mem_singleton, or_and_right,
    exists_or, exists_eq_left]
  rw [eq_comm (a := Except.error HostError.contextLost)]
  exact or_or_or_comm

/-- One more operation leaves a host idle or closed for good. -/
theorem Stands.run {sink : Sink} {ops : List Operation} {h : Host R} (stands : Stands sink ops h)
    (op : Operation)
    (hended : Ended R sink (ops ++ [op]) ↔
      Ended R sink ops ∨ op.closes = true ∨ (h.run op).1 = .error .contextLost) :
    Stands sink (ops ++ [op]) (h.run op).2.1 := by
  cases stands with
  | closed ended closed queue =>
    rw [run_closed closed queue]
    exact .closed (hended.2 (.inl ended)) closed queue
  | idle n going =>
    rw [run_idle] at hended ⊢
    generalize hr : Registry.uninitialized.after (commands sink ops) = r at hended ⊢
    cases ho : (r.handle sink op.command).result with
    | none =>
      simp only [ho] at hended ⊢
      exact .closed (hended.2 (.inr (.inr trivial))) rfl rfl
    | some reply =>
      simp only [ho] at hended ⊢
      cases hop : op.closes with
      | true => exact .closed (hended.2 (.inr (.inl hop))) rfl rfl
      | false =>
        have hafter : Registry.uninitialized.after (commands sink (ops ++ [op])) =
            (r.handle sink op.command).registry := by
          rw [commands, List.map_append, Registry.after_append, ← commands, hr]
          rfl
        -- no reply tells of a lost context, so that the host goes on
        have hgoing : ¬Ended R sink (ops ++ [op]) := by
          rw [hended, hop]
          rintro (ended | closes | lost)
          · exact going ended
          · exact Bool.false_ne_true closes
          · exact Registry.answer_ne_contextLost ho lost
        rw [← hafter]
        exact .idle (n + 1) hgoing

theorem stands_after (sink : Sink) (ops : List Operation) :
    Stands sink ops ((start sink : Host R).afterOps ops) := by
  induction ops using List.reverseRecOn with
  | nil => exact .idle 1 (by simp [Ended, answers])
  | append_singleton ops op ih =>
    rw [afterOps_append]
    exact ih.run op (ended_append_singleton sink ops op)

/-- What the host `h` shows after operations that were awaited one after another, if their commands
leave the registry `r`. -/
structure Refines (sink : Sink) (ops : List Operation) (r : Registry R) (h : Host R) : Prop where
  /-- The gate is shut exactly from the first `terminate` or lost context on. -/
  isTerminated_iff : h.isTerminated = true ↔ Ended R sink ops
  /-- It stays shut. -/
  stays : h.isTerminated = true → ∀ more, (h.afterOps more).isTerminated = true
  /-- Until then the context holds that registry. -/
  context : h.isTerminated = false → h.context = some r
  /-- Until then an operation gives what the registry replies to its command; the context is lost
  exactly if the registry breaks down over it. -/
  answer : h.isTerminated = false → ∀ op,
    let o := r.handle sink op.command
    (h.run op).1 = (o.result.map Reply.answer).getD (.error .contextLost) ∧
      ((h.run op).1 = .error .contextLost ↔ o.result = none) ∧ (h.run op).2.2 = o.activity
  /-- Until then a request waits alone; the response, if one comes, has the number of the request
  and is of the kind that its operation waits for. -/
  response : h.isTerminated = false → ∀ op, ∃ id,
    let o := r.handle sink op.command
    (h.submit op).1 = .waiting id ∧ (h.submit op).2.queue = [⟨id, op.command⟩] ∧
      (h.submit op).2.drain.1.responses = (o.result.map fun reply => ⟨id, reply⟩).toList ∧
      ∀ reply, o.result = some reply → op.answer? reply = some reply.answer
  /-- From then on every operation is refused, `terminate` succeeds, and nothing is served. -/
  refused : h.isTerminated = true → ∀ op, h.run op = (op.refusal, h, {})

theorem afterOps_closed {h : Host R} (closed : h.closed = true) (queue : h.queue = [])
    (ops : List Operation) : h.afterOps ops = h := by
  induction ops with
  | nil => rfl
  | cons op ops ih => rw [afterOps, run_closed closed queue, ih]

theorem refines_closed {sink : Sink} {ops : List Operation} (r : Registry R) {h : Host R}
    (ended : Ended R sink ops) (closed : h.closed = true) (queue : h.queue = []) :
    Refines sink ops r h := by
  have hnot {p : Prop} (h' : h.isTerminated = false) : p :=
    absurd (h'.symm.trans closed) Bool.false_ne_true
  exact {
    isTerminated_iff := iff_of_true closed ended
    stays := fun _ more => by rw [afterOps_closed closed queue]; exact closed
    context := hnot
    answer := hnot
    response := hnot
    refused := fun _ op => run_closed closed queue op }

theorem refines_idle {sink : Sink} {ops : List Operation} (r : Registry R) (n : Nat)
    (going : ¬Ended R sink ops) : Refines sink ops r (idle sink r n) := by
  have hnot {p : Prop} (h' : (idle sink r n).isTerminated = true) : p :=
    absurd h' Bool.false_ne_true
  exact {
    isTerminated_iff := iff_of_false Bool.false_ne_true going
    stays := hnot
    context := fun _ => rfl
    answer := fun _ op => by
      rw [run_idle]
      cases ho : (r.handle sink op.command).result with
      | none => simp [ho]
      | some reply => simp [ho, Registry.answer_ne_contextLost ho]
    response := fun _ op => by
      refine ⟨n, ?_, ?_, ?_, fun reply => Registry.answer?_of_handle⟩
      · rw [submit_idle]
      · rw [submit_idle]
      · rw [drain_submit_idle]
    refused := hnot }

/-- **A host shows what its registry does behind a gate that shuts once and for all.** -/
theorem refines_after (sink : Sink) (ops : List Operation) :
    Refines sink ops (Registry.uninitialized.after (commands sink ops) : Registry R)
      ((start sink).afterOps ops) := by
  have stands : Stands sink ops ((start sink : Host R).afterOps ops) := stands_after sink ops
  generalize (start sink : Host R).afterOps ops = h at stands ⊢
  cases stands with
  | closed ended closed queue => exact refines_closed _ ended closed queue
  | idle n going => exact refines_idle _ n going

end Host

end ModuleHost
