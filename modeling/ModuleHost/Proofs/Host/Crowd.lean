import Mathlib.Logic.Function.Basic
import ModuleHost.Proofs.Host.Refinement

/-!
# Callers of one host

Any number of callers share a host. An operation looks at the gate, takes a number and posts its
request in three steps, between which others may move; the context serves what was posted one
request at a time.

* `Crowd` — the gate, the context, the queue and how far each caller got;
* `Turn`, `Crowd.step` — who moves next, and what the move does;
* `Crowd.after`, `Crowd.history` — what a schedule of turns leaves; what was posted and served;
* **`Crowd.after_alone`**: a caller that nobody interrupts gets what `Host.run` gives.
-/

namespace ModuleHost

/-- A request on its way, with the caller whose channel takes the response. -/
structure Posted where
  caller : Nat
  request : Request

/-- A request that was served. -/
structure Served where
  posted : Posted
  /-- What went to the caller; none if the context broke down. -/
  response : Option Response
  activity : Activity

/-- How far the operation of a caller got. -/
inductive Stage where
  | idle
  /-- The gate let it pass. -/
  | admitted (op : Operation)
  | numbered (op : Operation) (id : Nat)
  /-- Its request was posted. -/
  | waiting (op : Operation) (id : Nat)
  /-- Its channel holds what became of the request. -/
  | told (op : Operation) (id : Nat) (response : Option Response)
  | settled (op : Operation) (answer : Except HostError Answer)
  /-- It was given up after its request was posted. -/
  | dropped (op : Operation) (id : Nat)

/-- Who moves next. A caller stands for one operation, which has a channel of its own. -/
inductive Turn where
  | ask (caller : Nat) (op : Operation)
  | number (caller : Nat)
  | post (caller : Nat)
  | serve
  | collect (caller : Nat)
  | drop (caller : Nat)

/-- What happens to the queue. -/
inductive Event where
  | posted (p : Posted)
  | served (x : Served)

/-- The requests that were posted, in order. -/
def posts (events : List Event) : List Posted :=
  events.filterMap fun
    | .posted p => some p
    | .served _ => none

/-- The requests that were served, in order. -/
def serves (events : List Event) : List Served :=
  events.filterMap fun
    | .posted _ => none
    | .served x => some x

/-- A host and its callers. -/
structure Crowd (R : ControlRuntime) where
  sink : Sink
  closed : Bool := false
  nextId : Nat := 1
  context : Context R := some .uninitialized
  queue : List Posted := []
  stage : Nat → Stage := fun _ => .idle

/-- What an operation gives, once its request was served. -/
def Operation.received (op : Operation) : Option Response → Except HostError Answer
  | none => Host.lostAnswer op
  | some response => response.reply.answer

namespace Crowd

variable {R : ControlRuntime}

/-- A host whose callers have not begun. -/
def start (sink : Sink) : Crowd R := { sink := sink }

/-- A caller gets to a stage. -/
def move (s : Crowd R) (caller : Nat) (stage : Stage) : Crowd R :=
  { s with stage := Function.update s.stage caller stage }

/-- A caller finds that the context is gone. -/
def lose (s : Crowd R) (caller : Nat) (op : Operation) : Crowd R :=
  { s.move caller (.settled op (Host.lostAnswer op)) with closed := true }

/-- An operation looks at the gate; `terminate` shuts it. -/
def ask (s : Crowd R) (caller : Nat) (op : Operation) : Crowd R :=
  match s.stage caller with
  | .idle =>
    { s.move caller (if s.closed then .settled op op.refusal else .admitted op) with
      closed := s.closed || op.closes }
  | _ => s

/-- An operation that was let in takes a number. -/
def number (s : Crowd R) (caller : Nat) : Crowd R :=
  match s.stage caller with
  | .admitted op => { s.move caller (.numbered op s.nextId) with nextId := s.nextId + 1 }
  | _ => s

/-- An operation with a number posts its request, unless the context is gone. -/
def post (s : Crowd R) (caller : Nat) : Crowd R × List Event :=
  match s.stage caller, s.context with
  | .numbered op _, none => (s.lose caller op, [])
  | .numbered op id, some _ =>
    let p : Posted := ⟨caller, ⟨id, op.command⟩⟩
    ({ s.move caller (.waiting op id) with queue := s.queue ++ [p] }, [.posted p])
  | _, _ => (s, [])

/-- What became of a request goes into the channel of its caller, if that still waits. -/
def deliver (s : Crowd R) (caller : Nat) (response : Option Response) : Crowd R :=
  match s.stage caller with
  | .waiting op id => s.move caller (.told op id response)
  | _ => s

/-- The context takes the request at the head of the queue. One that broke down drops it. -/
def serve (s : Crowd R) : Crowd R × List Event :=
  match s.queue with
  | [] => (s, [])
  | p :: queue =>
    let (context, response, activity) := s.context.serve s.sink p.request
    ({ s with context := context, queue := queue }.deliver p.caller response,
      [.served ⟨p, response, activity⟩])

/-- An operation takes what is in its channel. -/
def collect (s : Crowd R) (caller : Nat) : Crowd R :=
  match s.stage caller with
  | .told op _ none => s.lose caller op
  | .told op id (some response) =>
    if response.id = id then
      match op.answer? response.reply with
      | some answer => s.move caller (.settled op answer)
      | none => s.lose caller op
    else s.lose caller op
  | _ => s

/-- An operation is given up while its request is on its way. -/
def drop (s : Crowd R) (caller : Nat) : Crowd R :=
  match s.stage caller with
  | .waiting op id | .told op id _ => s.move caller (.dropped op id)
  | _ => s

/-- One turn. A turn that is not its caller's changes nothing. -/
def step (s : Crowd R) : Turn → Crowd R × List Event
  | .ask caller op => (s.ask caller op, [])
  | .number caller => (s.number caller, [])
  | .post caller => s.post caller
  | .serve => s.serve
  | .collect caller => (s.collect caller, [])
  | .drop caller => (s.drop caller, [])

/-- The host and its callers after turns in order. -/
def after (s : Crowd R) : List Turn → Crowd R
  | [] => s
  | t :: ts => (s.step t).1.after ts

/-- What happens to the queue in turns in order. -/
def history (s : Crowd R) : List Turn → List Event
  | [] => []
  | t :: ts => (s.step t).2 ++ (s.step t).1.history ts

/-! ## One caller at a time -/

/-- The host of a crowd, with no responses left to collect. -/
def host (s : Crowd R) : Host R :=
  { sink := s.sink, closed := s.closed, nextId := s.nextId, context := s.context,
    queue := s.queue.map (·.request) }

/-- The turns of an operation that nobody interrupts. -/
def alone (caller : Nat) (op : Operation) : List Turn :=
  [.ask caller op, .number caller, .post caller, .serve, .collect caller]

theorem after_alone (s : Crowd R) {c : Nat} (op : Operation) (hidle : s.stage c = .idle)
    (hqueue : s.queue = []) :
    (s.after (alone c op)).stage c = .settled op (s.host.run op).1 ∧
      (s.after (alone c op)).host = (s.host.run op).2.1 := by
  obtain ⟨sink, closed, nextId, context, queue, stage⟩ := s
  subst hqueue
  replace hidle : stage c = .idle := hidle
  cases closed with
  | true =>
    have hrun := Host.run_closed (h := host ⟨sink, true, nextId, context, [], stage⟩) rfl rfl op
    rw [hrun]
    simp [alone, after, step, ask, number, post, serve, collect, move, host, hidle]
  | false =>
    cases context with
    | none =>
      cases op <;>
        simp [alone, after, step, ask, number, post, serve, collect, move, lose, host, hidle,
          Host.run, Host.submit, Host.send, Host.drain, Host.collect, Host.lose, Host.lostAnswer,
          Context.serveAll, Operation.closes]
    | some r =>
      have hrun : (host ⟨sink, false, nextId, some r, [], stage⟩).run op = _ :=
        Host.run_idle sink r nextId op
      rw [hrun]
      cases ho : (r.handle sink op.command).result with
      | none =>
        have hop : Host.lostAnswer op = .error .contextLost := by
          cases op with
          | terminate =>
            rw [Operation.command, Registry.handle_terminate] at ho
            cases ho
          | _ => rfl
        simp [alone, after, step, ask, number, post, serve, deliver, collect, move, lose, host,
          hidle, Context.serve, ho, hop]
      | some reply =>
        simp [alone, after, step, ask, number, post, serve, deliver, collect, move, host, hidle,
          Context.serve, ho, Registry.answer?_of_handle ho, Host.idle]

end Crowd

end ModuleHost
