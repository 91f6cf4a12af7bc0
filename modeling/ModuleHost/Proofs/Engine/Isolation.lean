import Mathlib.Logic.Function.Basic
import ModuleHost.Engine.Control
import ModuleHost.Proofs.Registry.Run

/-!
# Services do not interfere

The services of a registry share one engine. Through its id each is seen as if it were alone.

* `Cell`, `Cell.operate` — a service on its own; an operation on it;
* `Linked` — each id leads to a service of the engine that no other id leads to;
* `Presents` — a registry over an engine shows its services as independent cells;
* **`Presents.operate`**: an operation acts on the cell of its target alone;
* `Registry.lineage` — the operations that made a service what it is;
* **`isolated`**: an operation shows what it would show after those alone.
-/

namespace ModuleHost

open Wasm (Regime Module)

/-- What a caller sees of an operation: the reply, unless the execution context broke, and the
guest records. -/
structure Seen where
  reply : Option Reply
  records : List LogRecord := []

/-- Whether a registration succeeded. -/
def Seen.registered (s : Seen) : Bool :=
  match s.reply with
  | some (.done (.ok ())) => true
  | _ => false

/-- What a caller sees of an outcome. -/
def Outcome.seen {R : ControlRuntime} (o : Outcome R Reply) : Seen :=
  ⟨o.result, o.activity.records⟩

/-! ## A service on its own -/

/-- What an id leads to: the facade and the modules of a service, if there is one. -/
abbrev Cell := Option (String × Service)

namespace Cell

variable (regime : Regime) (control : Module)

/-- Registers a service; the one before it stays unless that succeeds. -/
def create (c : Cell) (d : ServiceDescriptor) (sink : Sink) : Seen × Cell :=
  match d.facadeName? with
  | none =>
    let cause := RuntimeError.registration d.serviceId Registry.noModules
    (⟨some (.done (.error (.registration d.serviceId cause))), []⟩, c)
  | some facade =>
    let built := Service.build regime control d sink
    match built.result with
    | none => (⟨none, built.records⟩, c)
    | some (.error cause) =>
      (⟨some (.done (.error (.registration d.serviceId cause))), built.records⟩, c)
    | some (.ok service) => (⟨some (.done (.ok ())), built.records⟩, some (facade, service))

/-- Calls a function of the facade. -/
def call (c : Cell) (id function : String) (args : CallArgs) (parameters : CallParameters) :
    Seen × Cell :=
  match c with
  | none => (⟨some (.value (.error (.serviceNotFound id))), []⟩, none)
  | some (facade, service) =>
    match args.encode with
    | .error e => (⟨some (.value (.error (.marshal e))), []⟩, some (facade, service))
    | .ok arguments =>
      let e := service.invoke regime facade function arguments parameters
      (⟨e.result.map fun a => .value (Registry.readAnswer function a), e.records⟩,
        some (facade, e.state))

/-- Carries out an operation on a service on its own. -/
def operate (c : Cell) : ServiceOp → Seen × Cell
  | .create d sink => c.create regime control d sink
  | .call id function args parameters => c.call regime id function args parameters

end Cell

/-! ## The services of an engine -/

/-- Each id leads to a service of the engine, and no two ids to one. -/
structure Linked (e : Engine) (services : Dict String ServiceEntry) : Prop where
  live : ∀ id entry, services.get? id = some entry →
    ∃ service, e.services.get? entry.handle.number = some service
  below : ∀ id entry, services.get? id = some entry → entry.handle.number < e.nextHandle
  apart : ∀ id id' entry entry', services.get? id = some entry → services.get? id' = some entry' →
    entry.handle.number = entry'.handle.number → id = id'

/-- What an id leads to in an engine. -/
def Engine.cell (e : Engine) (services : Dict String ServiceEntry) (id : String) : Cell :=
  (services.get? id).bind fun entry =>
    (e.services.get? entry.handle.number).map fun service => (entry.facade, service)

namespace Linked

variable {e e' : Engine} {services : Dict String ServiceEntry}

theorem empty (e : Engine) : Linked e Dict.empty where
  live id entry h := by cases h
  below id entry h := by cases h
  apart id id' entry entry' h := by cases h

/-- The service behind an entry is put back changed. -/
theorem put (hl : Linked e services) {id : String} {entry : ServiceEntry}
    (present : services.get? id = some entry) (service : Service) :
    Linked (e.put entry.handle service) services ∧
      (e.put entry.handle service).cell services =
        Function.update (e.cell services) id (some (entry.facade, service)) := by
  have hget : ∀ n, (e.put entry.handle service).services.get? n =
      if n = entry.handle.number then some service else e.services.get? n := fun n =>
    Dict.get?_insert ..
  refine ⟨⟨fun id' entry' h => ?_, hl.below, hl.apart⟩, ?_⟩
  · rw [hget]
    split
    · exact ⟨_, rfl⟩
    · exact hl.live id' entry' h
  · funext id'
    by_cases hid : id' = id
    · subst hid
      simp [Engine.cell, present, hget]
    · rw [Function.update_of_ne hid, Engine.cell, Engine.cell]
      cases he : services.get? id' with
      | none => rfl
      | some entry' =>
        have hn : entry'.handle.number ≠ entry.handle.number := fun hn =>
          hid (hl.apart _ _ _ _ he present hn)
        simp [hget, hn]

/-- A service of another id than the one dropped is still there. -/
theorem kept (hl : Linked e services) {id : String}
    (others : ∀ n, n ≠ e.nextHandle →
      (∀ old, services.get? id = some old → n ≠ old.handle.number) →
      e'.services.get? n = e.services.get? n)
    {id' : String} {entry : ServiceEntry} (hid : id' ≠ id) (he : services.get? id' = some entry) :
    e'.services.get? entry.handle.number = e.services.get? entry.handle.number := by
  refine others _ (Nat.ne_of_lt (hl.below _ _ he)) fun old ho hn => ?_
  exact hid (hl.apart _ _ _ _ he ho hn)

/-- A service is entered under the next handle, and the one that its id led to is dropped. -/
theorem enter (hl : Linked e services) (id facade : String) {service : Service}
    (new : e'.services.get? e.nextHandle = some service)
    (others : ∀ n, n ≠ e.nextHandle →
      (∀ old, services.get? id = some old → n ≠ old.handle.number) →
      e'.services.get? n = e.services.get? n)
    (next : e'.nextHandle = e.nextHandle + 1) :
    Linked e' (services.insert id ⟨⟨e.nextHandle⟩, facade⟩) ∧
      e'.cell (services.insert id ⟨⟨e.nextHandle⟩, facade⟩) =
        Function.update (e.cell services) id (some (facade, service)) := by
  have kept : ∀ id' entry, id' ≠ id → services.get? id' = some entry →
      e'.services.get? entry.handle.number = e.services.get? entry.handle.number :=
    fun _ _ => hl.kept others
  refine ⟨⟨fun id' entry h => ?_, fun id' entry h => ?_, fun id₁ id₂ entry₁ entry₂ h₁ h₂ hn => ?_⟩,
    ?_⟩
  · rw [Dict.get?_insert] at h
    split at h
    · cases h
      exact ⟨service, new⟩
    · next hid =>
      rw [kept id' entry hid h]
      exact hl.live id' entry h
  · rw [Dict.get?_insert] at h
    rw [next]
    split at h
    · cases h
      exact Nat.lt_succ_self _
    · exact Nat.lt_succ_of_lt (hl.below id' entry h)
  · rw [Dict.get?_insert] at h₁ h₂
    split at h₁ <;> split at h₂
    · next hid₁ hid₂ => rw [hid₁, hid₂]
    · cases h₁
      exact absurd hn.symm (Nat.ne_of_lt (hl.below _ _ h₂))
    · cases h₂
      exact absurd hn (Nat.ne_of_lt (hl.below _ _ h₁))
    · exact hl.apart _ _ _ _ h₁ h₂ hn
  · funext id'
    by_cases hid : id' = id
    · subst hid
      simp [Engine.cell, Dict.get?_insert, new]
    · rw [Function.update_of_ne hid, Engine.cell, Engine.cell, Dict.get?_insert, if_neg hid]
      cases he : services.get? id' with
      | none => rfl
      | some entry => simp [kept id' entry hid he]

end Linked

/-! ## Registries over an engine -/

variable {regime : Regime} {control : Module}

/-- An initialized registry shows its services as cells. -/
inductive Presents (regime : Regime) (control : Module) :
    Registry (Engine.controlRuntime regime) → (String → Cell) → Prop where
  | intro (e : Engine) (services : Dict String ServiceEntry) (regime_eq : e.regime = regime)
      (control_eq : e.control = control) (linked : Linked e services) :
      Presents regime control ⟨.initialized, some e, services⟩ (e.cell services)

namespace Presents

variable {r : Registry (Engine.controlRuntime regime)} {cells : String → Cell}

/-- An operation that leaves the registry as it was. -/
theorem stays (h : Presents regime control r cells) (id : String) :
    Presents regime control r (Function.update cells id (cells id)) := by
  rwa [Function.update_eq_self]

theorem create (h : Presents regime control r cells) (d : ServiceDescriptor) (sink : Sink) :
    (r.operate (.create d sink)).seen = ((cells d.serviceId).create regime control d sink).1 ∧
      Presents regime control (r.operate (.create d sink)).registry
        (Function.update cells d.serviceId
          ((cells d.serviceId).create regime control d sink).2) := by
  have same := h.stays d.serviceId
  obtain ⟨e, services, regime_eq, control_eq, hl⟩ := h
  simp only [Registry.operate, Registry.createService, Registry.ready, Registry.gate, Cell.create]
  cases hf : d.facadeName? with
  | none => exact ⟨rfl, same⟩
  | some facade =>
    have hreg : (Engine.controlRuntime regime).register e d sink =
        match (Service.build regime control d sink).result with
        | none => .broken e (Service.build regime control d sink).records
        | some (.error cause) => .failed cause e (Service.build regime control d sink).records
        | some (.ok service) =>
          .returned ⟨e.nextHandle⟩ (e.add service) (Service.build regime control d sink).records := by
      rw [← regime_eq, ← control_eq]
      rfl
    have hnew : ∀ (service : Service) n, (e.add service).services.get? n =
        if n = e.nextHandle then some service else e.services.get? n := fun service n =>
      Dict.get?_insert ..
    rcases hb : (Service.build regime control d sink).result with _ | cause | service
    · rw [hb] at hreg
      simp only [Registry.register, hreg]
      exact ⟨rfl, same⟩
    · rw [hb] at hreg
      simp only [Registry.register, hreg]
      exact ⟨rfl, same⟩
    · rw [hb] at hreg
      simp only [Registry.register, hreg, Effect.returned, Registry.enter]
      cases ho : services.get? d.serviceId with
      | none =>
        have hat : (e.add service).services.get? e.nextHandle = some service := by
          rw [hnew, if_pos rfl]
        obtain ⟨hl', hcell⟩ := hl.enter d.serviceId facade hat
          (fun n hn _ => by rw [hnew, if_neg hn]) rfl
        rw [← hcell]
        exact ⟨rfl, .intro _ _ regime_eq control_eq hl'⟩
      | some old =>
        have hold : e.nextHandle ≠ old.handle.number := (Nat.ne_of_lt (hl.below _ _ ho)).symm
        have hget : ∀ n, ((e.add service).release old.handle).services.get? n =
            if n = old.handle.number then none else (e.add service).services.get? n := fun n =>
          Dict.get?_erase ..
        have hat : ((e.add service).release old.handle).services.get? e.nextHandle =
            some service := by
          rw [hget, if_neg hold, hnew, if_pos rfl]
        obtain ⟨hl', hcell⟩ := hl.enter d.serviceId facade hat
          (fun n hn ho' => by rw [hget, if_neg (ho' old ho), hnew, if_neg hn]) rfl
        rw [← hcell]
        exact ⟨rfl, .intro _ _ regime_eq control_eq hl'⟩

theorem call (h : Presents regime control r cells) (id function : String) (args : CallArgs)
    (parameters : CallParameters) :
    (r.operate (.call id function args parameters)).seen =
        ((cells id).call regime id function args parameters).1 ∧
      Presents regime control (r.operate (.call id function args parameters)).registry
        (Function.update cells id ((cells id).call regime id function args parameters).2) := by
  have same := h.stays id
  obtain ⟨e, services, regime_eq, control_eq, hl⟩ := h
  simp only [Registry.operate, Registry.callService, Registry.ready, Registry.gate, Cell.call]
  cases he : services.get? id with
  | none =>
    have hcell : e.cell services id = none := by rw [Engine.cell, he]; rfl
    rw [hcell] at same ⊢
    exact ⟨rfl, same⟩
  | some entry =>
    obtain ⟨service, hs⟩ := hl.live id entry he
    have hcell : e.cell services id = some (entry.facade, service) := by
      rw [Engine.cell, he, Option.bind_some, hs, Option.map_some]
    rw [hcell] at same ⊢
    cases ha : args.encode with
    | error cause => exact ⟨rfl, same⟩
    | ok arguments =>
      have hinv : (Engine.controlRuntime regime).invoke e entry.handle entry.facade function
          arguments parameters =
          (service.invoke regime entry.facade function arguments parameters).mapState
            (e.put entry.handle) := by
        rw [← regime_eq]
        show e.invoke entry.handle entry.facade function arguments parameters = _
        rw [Engine.invoke, hs]
      simp only [Registry.invoke, hinv]
      obtain ⟨hl', hcell'⟩ := hl.put he
        (service.invoke regime entry.facade function arguments parameters).state
      rw [← hcell']
      exact ⟨by simp [Outcome.seen, Outcome.map, Effect.mapState, Function.comp_def],
        .intro _ _ regime_eq control_eq hl'⟩

/-- **An operation acts on the cell of its target alone.** -/
theorem operate (h : Presents regime control r cells) (op : ServiceOp) :
    (r.operate op).seen = ((cells op.target).operate regime control op).1 ∧
      Presents regime control (r.operate op).registry
        (Function.update cells op.target ((cells op.target).operate regime control op).2) := by
  cases op with
  | create d sink => exact h.create d sink
  | call id function args parameters => exact h.call id function args parameters

end Presents

/-! ## Lineages -/

section

variable {R : ControlRuntime}

/-- What made the service of an id what it is, after an operation that showed `seen`: a
registration that succeeded starts afresh, a call adds to the rest. -/
def ServiceOp.extend (id : String) (kept : List ServiceOp) (seen : Seen) :
    ServiceOp → List ServiceOp
  | .create d sink =>
    if d.serviceId = id ∧ seen.registered then [.create d sink] else kept
  | .call id' function args parameters =>
    if id' = id then kept ++ [.call id' function args parameters] else kept

theorem ServiceOp.extend_of_ne {op : ServiceOp} {id : String} (h : op.target ≠ id)
    (kept : List ServiceOp) (seen : Seen) : op.extend id kept seen = kept := by
  cases op with
  | create d sink => exact if_neg fun hn => h hn.1
  | call id' function args parameters => exact if_neg h

/-- The operations that made the service of an id what it is after `ops`, `kept` being those
before. -/
def Registry.lineage (id : String) (kept : List ServiceOp) (r : Registry R) :
    List ServiceOp → List ServiceOp
  | [] => kept
  | op :: ops =>
    lineage id (op.extend id kept (r.operate op).seen) (r.operate op).registry ops

/-- The registry after operations on services in order. -/
def Registry.afterOps (r : Registry R) (ops : List ServiceOp) : Registry R :=
  r.after (ops.map .operate)

end

namespace Cell

theorem create_congr {c : Cell} {d : ServiceDescriptor} {sink : Sink}
    (h : (c.create regime control d sink).1.registered) (c' : Cell) :
    c'.create regime control d sink = c.create regime control d sink := by
  unfold create at h ⊢
  cases hf : d.facadeName? with
  | none => simp [hf, Seen.registered] at h
  | some facade =>
    rcases hb : (Service.build regime control d sink).result with _ | _ | service
    · simp [hf, hb, Seen.registered] at h
    · simp [hf, hb, Seen.registered] at h
    · simp [hb]

theorem create_snd {c : Cell} {d : ServiceDescriptor} {sink : Sink}
    (h : ¬(c.create regime control d sink).1.registered) :
    (c.create regime control d sink).2 = c := by
  unfold create at h ⊢
  cases hf : d.facadeName? with
  | none => rfl
  | some facade =>
    rcases hb : (Service.build regime control d sink).result with _ | _ | service
    · simp [hb]
    · simp [hb]
    · simp [hf, hb, Seen.registered] at h

end Cell

/-- Registries that show the same at an id: one after all the operations, the other after the
lineage of the id. -/
theorem Presents.lineage {r₀ : Registry (Engine.controlRuntime regime)} {cells₀ : String → Cell}
    (h₀ : Presents regime control r₀ cells₀) (id : String) (ops : List ServiceOp) :
    ∀ (kept : List ServiceOp) {r cells cells'}, Presents regime control r cells →
      Presents regime control (r₀.afterOps kept) cells' → cells' id = cells id →
      ∃ cells₁ cells₂, Presents regime control (r.afterOps ops) cells₁ ∧
        Presents regime control (r₀.afterOps (r.lineage id kept ops)) cells₂ ∧
        cells₂ id = cells₁ id := by
  induction ops with
  | nil => exact fun _ _ _ _ h h' hid => ⟨_, _, h, h', hid⟩
  | cons op ops ih =>
    intro kept r cells cells' h h' hid
    obtain ⟨hseen, hnext⟩ := h.operate op
    suffices hkept : ∃ cells'', Presents regime control
        (r₀.afterOps (op.extend id kept (r.operate op).seen)) cells'' ∧
          cells'' id = Function.update cells op.target
            ((cells op.target).operate regime control op).2 id by
      obtain ⟨cells'', h'', hid''⟩ := hkept
      exact ih _ hnext h'' hid''
    by_cases ht : op.target = id
    · subst ht
      rw [Function.update_self]
      cases op with
      | create d sink =>
        rw [ServiceOp.extend]
        by_cases hr : (r.operate (.create d sink)).seen.registered
        · -- the lineage begins anew
          rw [if_pos ⟨rfl, hr⟩]
          refine ⟨_, (h₀.operate (.create d sink)).2, ?_⟩
          rw [ServiceOp.target, Function.update_self]
          exact congrArg Prod.snd (Cell.create_congr (hseen ▸ hr) _)
        · rw [if_neg fun hn => hr hn.2]
          refine ⟨cells', h', hid.trans ?_⟩
          exact (Cell.create_snd (hseen ▸ hr)).symm
      | call id function args parameters =>
        have hadd (seen : Seen) : ServiceOp.extend id kept seen (.call id function args parameters) =
            kept ++ [.call id function args parameters] := if_pos rfl
        rw [ServiceOp.target, hadd, Registry.afterOps, List.map_append, Registry.after_append]
        refine ⟨_, (h'.operate (.call id function args parameters)).2, ?_⟩
        rw [ServiceOp.target, Function.update_self]
        rw [ServiceOp.target] at hid
        rw [hid]
    · refine ⟨cells', ?_, ?_⟩
      · rw [ServiceOp.extend_of_ne ht]
        exact h'
      · rw [Function.update_of_ne (Ne.symm ht)]
        exact hid

namespace Registry

theorem operate_of_not_ready {R : ControlRuntime} {r : Registry R} {e : HostError}
    (h : r.ready = .error e) (op : ServiceOp) : (r.operate op).registry = r := by
  cases op with
  | create d sink =>
    rw [operate, createService, h]
    rfl
  | call id function args parameters =>
    rw [operate, callService, h]
    rfl

theorem afterOps_of_not_ready {R : ControlRuntime} {r : Registry R} {e : HostError}
    (h : r.ready = .error e) (ops : List ServiceOp) : r.afterOps ops = r := by
  induction ops with
  | nil => rfl
  | cons op ops ih =>
    show (r.operate op).registry.afterOps ops = r
    rw [operate_of_not_ready h, ih]

end Registry

theorem Engine.compile_eq_ok {control : Bytes} {e : Engine}
    (h : Engine.compile regime control = .ok e) :
    ∃ m, e = { regime := regime, control := m } := by
  unfold Engine.compile at h
  split at h
  · cases h
  · next m _ =>
    split at h
    · exact ⟨m, (Except.ok.inj h).symm⟩
    · cases h

/-- **Services do not interfere.** An operation shows what it would show had nothing happened but
the last registration of its service and the calls since. -/
theorem isolated (regime : Regime) (control : Bytes) (ops : List ServiceOp) (op : ServiceOp) :
    let r : Registry (Engine.controlRuntime regime) := (Registry.uninitialized.init control).registry
    ((r.afterOps ops).operate op).seen =
      ((r.afterOps (r.lineage op.target [] ops)).operate op).seen := by
  intro r
  cases hc : Engine.compile regime control with
  | error e =>
    have hr : r.ready = .error .notInitialized := by
      simp [r, Registry.init, Registry.uninitialized, Registry.ready, Registry.gate,
        Engine.controlRuntime, hc]
    rw [Registry.afterOps_of_not_ready hr, Registry.afterOps_of_not_ready hr]
  | ok e =>
    obtain ⟨m, rfl⟩ := Engine.compile_eq_ok hc
    have h₀ : Presents regime m r (Engine.cell { regime := regime, control := m } Dict.empty) := by
      have hr : r = ⟨.initialized, some { regime := regime, control := m }, Dict.empty⟩ := by
        simp [r, Registry.init, Registry.uninitialized, Engine.controlRuntime, hc]
      rw [hr]
      exact .intro _ _ rfl rfl (Linked.empty _)
    obtain ⟨cells₁, cells₂, h₁, h₂, hid⟩ := h₀.lineage op.target ops [] h₀ h₀ rfl
    rw [(h₁.operate op).1, (h₂.operate op).1, hid]

end ModuleHost
