import ModuleHost.Registry.Command

/-!
# The service host

Callers send requests to an execution context that owns a registry. Requests wait in a queue and
are served one at a time; each carries a number that its response repeats.

* `Request`, `Response` — a command on its way to the context and the reply on its way back;
* `Context` — the registry, or nothing once the context broke down; `Context.serve`;
* `Host` — the gate, the queue and the responses of one context;
* `Host.submit`, `Host.serveNext`, `Host.drain`, `Host.collect` — an operation is submitted, its
  request is served, its answer is collected;
* `Host.run` — the three in one.
-/

namespace ModuleHost

/-- A command on its way to the execution context. -/
structure Request where
  id : Nat
  command : Command

/-- A reply on its way back. -/
structure Response where
  id : Nat
  reply : Reply

/-- An operation of the host. -/
inductive Operation where
  | init (control : ModuleBytes)
  | createService (id : String) (modules : ModuleSet) (config : Option ServiceConfig)
      (envs : Option Envs)
  | callService (id function : String) (args : CallArgs) (parameters : Option CallParameters)
  | serviceIds
  | facadeOf (id : String)
  | terminate

/-- The command of an operation; call parameters that are not given are the default ones. -/
def Operation.command : Operation → Command
  | .init control => .init control
  | .createService id modules config envs => .createService id modules config envs
  | .callService id function args parameters =>
    .callService id function args (parameters.getD {})
  | .serviceIds => .serviceIds
  | .facadeOf id => .facadeOf id
  | .terminate => .terminate

/-- What an operation gives. -/
inductive Answer where
  | done
  | value (v : Value)
  | serviceIds (ids : List String)
  | facade (name : Option String)

/-- The answer to an operation that a reply holds; none if it is a reply to another operation. -/
def Operation.answer? : Operation → Reply → Option (Except HostError Answer)
  | .init _, .done result => some (result.map fun _ => .done)
  | .createService _ _ _ _, .done result => some (result.map fun _ => .done)
  | .callService _ _ _ _, .value result => some (result.map .value)
  | .serviceIds, .serviceIds ids => some (.ok (.serviceIds ids))
  | .facadeOf _, .facade name => some (.ok (.facade name))
  | .terminate, _ => some (.ok .done)
  | _, _ => none

/-- An execution context: its registry, or nothing once it broke down. -/
abbrev Context (R : ControlRuntime) := Option (Registry R)

namespace Context

variable {R : ControlRuntime}

/-- Serves one request. A context that breaks down while it serves gives no response. -/
def serve (context : Context R) (sink : Sink) (request : Request) :
    Context R × Option Response × Activity :=
  match context with
  | none => (none, none, {})
  | some registry =>
    let o := registry.handle sink request.command
    match o.result with
    | none => (none, none, o.activity)
    | some reply => (some o.registry, some ⟨request.id, reply⟩, o.activity)

/-- Serves requests in order. -/
def serveAll (context : Context R) (sink : Sink) : List Request →
    Context R × List Response × Activity
  | [] => (context, [], {})
  | request :: requests =>
    let (next, response, activity) := serve context sink request
    let (last, responses, more) := serveAll next sink requests
    (last, response.toList ++ responses, activity ++ more)

end Context

/-- A host: the gate of one execution context, its queue and the responses not yet collected. -/
structure Host (R : ControlRuntime) where
  sink : Sink
  /-- Whether work is no longer admitted. -/
  closed : Bool := false
  /-- The number of the next request. -/
  nextId : Nat := 1
  context : Context R := some .uninitialized
  queue : List Request := []
  responses : List Response := []

/-- How far an operation got when it was submitted. -/
inductive Ticket where
  /-- Its answer is known. -/
  | settled (answer : Except HostError Answer)
  /-- Its request waits under a number. -/
  | waiting (id : Nat)

namespace Host

variable {R : ControlRuntime}

/-- Whether the host admits no more work. -/
def isTerminated (h : Host R) : Bool := h.closed

/-- The host after it found that its context is gone. -/
def lose (h : Host R) : Host R := { h with closed := true }

/-- Queues a command, unless the context is gone. -/
def send (h : Host R) (command : Command) : Ticket × Host R :=
  match h.context with
  | none => (.settled (.error .contextLost), { h.lose with nextId := h.nextId + 1 })
  | some _ =>
    (.waiting h.nextId,
      { h with nextId := h.nextId + 1, queue := h.queue ++ [⟨h.nextId, command⟩] })

/-- Submits an operation. A closed host refuses all of them but `terminate`, which has nothing left
to do; `terminate` closes the gate and goes behind the work already queued. -/
def submit (h : Host R) (op : Operation) : Ticket × Host R :=
  match op with
  | .terminate =>
    if h.closed then (.settled (.ok .done), h)
    else
      match { h with closed := true }.send .terminate with
      | (.settled _, h) => (.settled (.ok .done), h)
      | (ticket, h) => (ticket, h)
  | op => if h.closed then (.settled (.error .terminated), h) else h.send op.command

/-- The context serves the request at the head of the queue. When it breaks down, the requests
behind are lost with it. -/
def serveNext (h : Host R) : Host R × Activity :=
  match h.queue with
  | [] => (h, {})
  | request :: queue =>
    let (context, response, activity) := h.context.serve h.sink request
    ({ h with
        context := context
        queue := if context.isSome then queue else []
        responses := h.responses ++ response.toList },
      activity)

/-- The context serves every request in the queue. -/
def drain (h : Host R) : Host R × Activity :=
  let (context, responses, activity) := h.context.serveAll h.sink h.queue
  ({ h with context := context, queue := [], responses := h.responses ++ responses }, activity)

/-- The answer of a context that is gone: `terminate` has then nothing left to do. -/
def lostAnswer : Operation → Except HostError Answer
  | .terminate => .ok .done
  | _ => .error .contextLost

/-- Collects the answer to an operation once the queue was served. -/
def collect (h : Host R) (op : Operation) : Ticket → Except HostError Answer × Host R
  | .settled answer => (answer, h)
  | .waiting id =>
    match h.responses.find? (·.id = id) with
    | none => (lostAnswer op, h.lose)
    | some response =>
      let h := { h with responses := h.responses.filter (·.id ≠ id) }
      match op.answer? response.reply with
      | none => (.error .contextLost, h.lose)
      | some answer => (answer, h)

/-- Submits an operation and waits for its answer. -/
def run (h : Host R) (op : Operation) : Except HostError Answer × Host R × Activity :=
  let (ticket, h) := h.submit op
  let (h, activity) := h.drain
  let (answer, h) := h.collect op ticket
  (answer, h, activity)

end Host

end ModuleHost
