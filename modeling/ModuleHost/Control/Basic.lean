import ModuleHost.Config.Resolve
import ModuleHost.Call.Parameters
import ModuleHost.Error
import ModuleHost.Log.Logger

/-!
# Control runtimes

The part that runs service modules. A control module is compiled once; the runtime it gives then
registers services, invokes their functions and drops them.

* `Effect` — what one operation of a runtime does: its result, the state it leaves and the guest
  records it passed to the sink;
* `ControlRuntime` — the four operations.
-/

namespace ModuleHost

/-- What one operation of a runtime does. -/
structure Effect (σ α : Type) where
  /-- The result; none if the operation broke its execution context. -/
  result : Option (Except RuntimeError α)
  state : σ
  /-- The records that the sink took, in order. -/
  records : List LogRecord

namespace Effect

variable {σ τ α : Type}

/-- An operation that returns. -/
def returned (a : α) (state : σ) (records : List LogRecord := []) : Effect σ α :=
  ⟨some (.ok a), state, records⟩

/-- An operation that fails. -/
def failed (e : RuntimeError) (state : σ) (records : List LogRecord := []) : Effect σ α :=
  ⟨some (.error e), state, records⟩

/-- An operation that breaks its execution context. -/
def broken (state : σ) (records : List LogRecord := []) : Effect σ α := ⟨none, state, records⟩

/-- The operation as one on a state that holds the other. -/
def mapState (f : σ → τ) (e : Effect σ α) : Effect τ α := ⟨e.result, f e.state, e.records⟩

end Effect

/-- A control runtime. -/
structure ControlRuntime where
  State : Type
  /-- Compiles a control module into a runtime without services. -/
  compile : Bytes → Except RuntimeError State
  /-- Registers every module of a service; its guests log to the sink. -/
  register : State → ServiceDescriptor → Sink → Effect State Handle
  /-- Invokes a function of a module on the JSON text of its arguments; the result is the text of
  an envelope. -/
  invoke : State → Handle → (module function arguments : String) → CallParameters →
    Effect State String
  /-- Drops a service. A handle without a service is ignored. -/
  release : State → Handle → State

end ModuleHost
