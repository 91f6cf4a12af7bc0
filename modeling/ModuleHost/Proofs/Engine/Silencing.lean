import ModuleHost.Proofs.Engine.Forwarding
import ModuleHost.Proofs.Engine.Lockstep

/-!
# Silenced services

A service is registered once with everything logged and once with any log settings. Both do the same
from then on.

* `ModuleDescriptor.Silences`, `ServiceDescriptor.Silences` — the same modules, with any settings
  and with everything logged;
* `spoken` — what the log calls of an operation say;
* `Wasm.Store.Muted`, `Service.Muted`, `Engine.Muted` — the same state but for loggers;
* `Wasm.Store.Muted.passed` — the records are those that the settings let pass;
* **`Service.Muted.invoke`**, **`Service.build_silenced`**: invocations and registrations do the
  same; `Engine.Muted.invoke`, `Engine.Muted.register`.
-/

namespace ModuleHost

open Wasm (Store Regime Module)

/-! ## Descriptors -/

/-- The descriptor `d` lets everything be logged, and `d'` is of the same module, whatever its
settings are. -/
structure ModuleDescriptor.Silences (d' d : ModuleDescriptor) : Prop where
  importName : d'.importName = d.importName
  bytes : d'.bytes = d.bytes
  enabled : d.config.loggerEnabled = true
  mask : d.config.loggingMask = LogMask.all
  filter : d.config.wasi.envs.get? logVariable = some "trace"

/-- The descriptor `d` lets its modules log everything, and `d'` is of the same modules. -/
structure ServiceDescriptor.Silences (d' d : ServiceDescriptor) : Prop where
  serviceId : d'.serviceId = d.serviceId
  modules : List.Forall₂ ModuleDescriptor.Silences d'.modules d.modules

theorem LogMask.allows_all (level : LogLevel) : LogMask.all.allows level = true := by
  cases level <;> decide

theorem LogFilter.admits_trace (module : String) (level : LogLevel) :
    (LogFilter.parse "trace").admits module level = true := by
  have hparse : LogFilter.parse "trace" = ⟨some everything, Dict.empty⟩ := by decide +kernel
  rw [hparse]
  cases level <;> rfl

namespace ModuleDescriptor.Silences

variable {d d' : ModuleDescriptor}

theorem forwards (h : d'.Silences d) (level : LogLevel) : d.forwards level = true := by
  have hlog : d.config.wasmLog = "trace" := by rw [ModuleConfig.wasmLog, h.filter, Option.getD_some]
  rw [ModuleDescriptor.forwards, h.enabled, h.mask, LogMask.allows_all, hlog,
    LogFilter.admits_trace]
  rfl

theorem mutes (h : d'.Silences d) (id : String) : d'.Mutes id d where
  importName := h.importName
  bytes := h.bytes
  logger := ⟨rfl, rfl, fun level => by rw [d.admits_logger, h.forwards]⟩

end ModuleDescriptor.Silences

namespace ServiceDescriptor.Silences

variable {d d' : ServiceDescriptor}

theorem mutes (h : d'.Silences d) : d'.Mutes d where
  serviceId := h.serviceId
  modules := h.modules.imp fun _ _ hm => hm.mutes d.serviceId

theorem facadeName? (h : d'.Silences d) : d'.facadeName? = d.facadeName? := by
  have names {ds' ds : List ModuleDescriptor} (h : List.Forall₂ ModuleDescriptor.Silences ds' ds) :
      ds'.map (·.importName) = ds.map (·.importName) := by
    induction h with
    | nil => rfl
    | cons head _ ih => rw [List.map_cons, List.map_cons, head.importName, ih]
  unfold ServiceDescriptor.facadeName? ServiceDescriptor.facade?
  rw [← List.getLast?_map, ← List.getLast?_map, names h.modules]

end ServiceDescriptor.Silences

theorem ServiceDescriptor.admitted_loggers (d : ServiceDescriptor) :
    admitted (d.modules.map (·.logger d.serviceId)) = d.forwards := by
  funext position level
  rw [admitted, forwards, List.getElem?_map, Option.any_map]
  exact congrArg (Option.any · _) (funext fun m => m.admits_logger d.serviceId level)

/-! ## Stores -/

/-- What the log calls of an operation say, with the positions of the modules that log. -/
def spoken (s : Store guests) : List (Nat × LogRecord) := said s.data.serviceId s.data.exchanges

namespace Wasm.Store

/-- The store `s'` is `s` but for the settings of its loggers and the records that they let pass. -/
def Muted (s s' : Wasm.Store guests) : Prop :=
  ∃ id d, s' = s.withData d ∧ ModuleHost.Muted id s.data d

namespace Muted

variable {s s' : Wasm.Store guests}

theorem settled (h : s.Muted s') : (settled s).Muted (ModuleHost.settled s') := by
  obtain ⟨id, d, rfl, muted⟩ := h
  exact ⟨id, _, rfl, muted.settle⟩

/-- Where everything is logged, everything that is said is recorded. -/
theorem full (h : s.Muted s') : s.data.records = (spoken s).map (·.2) := by
  obtain ⟨id, d, rfl, muted⟩ := h
  rw [muted.full, spoken, muted.owner]

/-- Otherwise what the settings let pass. -/
theorem passed (h : s.Muted s') {d' : ServiceDescriptor}
    (loggers : s'.data.loggers <+: d'.modules.map (·.logger d'.serviceId)) :
    s'.data.records = ModuleHost.passed d'.forwards (spoken s) := by
  obtain ⟨id, d, rfl, muted⟩ := h
  rw [spoken, muted.owner]
  refine muted.passed.trans (congrArg (List.map _) (List.filter_congr fun e he => ?_))
  have hlt : e.1 < d.loggers.length := muted.loggers.length_eq ▸ muted.present e he
  obtain ⟨rest, hrest⟩ := loggers
  rw [← d'.admitted_loggers, ← hrest, admitted, admitted]
  exact congrArg (Option.any _) (List.getElem?_append_left hlt).symm

end Muted

end Wasm.Store

/-! ## Services -/

/-- The service `service'` is `service` but for the settings of its loggers. Nothing is left of the
operations before. -/
structure Service.Muted (service service' : Service) : Prop where
  modules : service'.modules = service.modules
  settled : service.Settled
  settled' : service'.Settled
  store : service.store.Muted service'.store

namespace Service

variable {service service' : Service}

theorem Muted.put (h : service.Muted service') {s s' : Store guests} (muted : s.Muted s') :
    (service.put s).Muted (service'.put s') where
  modules := h.modules
  settled := settled_put service s
  settled' := settled_put service' s'
  store := muted.settled

/-- **An invocation does the same where less is logged.** -/
theorem Muted.invoke (h : service.Muted service') (regime : Regime)
    (module function arguments : String) (parameters : CallParameters)
    (legible : Legible (service.final regime module function arguments parameters).data) :
    (service'.invoke regime module function arguments parameters).result =
        (service.invoke regime module function arguments parameters).result ∧
      (service.final regime module function arguments parameters).Muted
        (service'.final regime module function arguments parameters) := by
  obtain ⟨s, modules⟩ := service
  obtain ⟨s', modules'⟩ := service'
  obtain ⟨rfl, -, -, id, d, hs, muted⟩ := h
  dsimp only at hs muted
  subst hs
  have hprepare : prepare ⟨s.withData d, modules'⟩ module function arguments =
      prepare ⟨s, modules'⟩ module function arguments := rfl
  unfold Service.invoke Service.final at *
  rw [hprepare]
  cases hp : prepare ⟨s, modules'⟩ module function arguments with
  | error cause => exact ⟨rfl, id, d, rfl, muted⟩
  | ok prepared =>
    obtain ⟨m, ordered⟩ := prepared
    rw [hp] at legible
    dsimp only at legible ⊢
    obtain ⟨d₁, muted₁, hcall⟩ :=
      (mirrors_callModule regime m function ordered parameters s legible).2 d muted
    rw [hcall]
    refine ⟨?_, id, d₁, ?_, muted₁⟩
    · cases callModule regime m function ordered parameters s with
      | stop why s₁ => rfl
      | value called s₁ =>
        dsimp only [Wasm.Ended.withData]
        cases called.bind (RawOutput.envelope function) <;> rfl
    · cases callModule regime m function ordered parameters s <;> rfl

/-- **A registration does the same where less is logged.** -/
theorem build_silenced {d d' : ServiceDescriptor} (silences : d'.Silences d) (regime : Regime)
    (control : Module) (sink : Sink) (legible : Legible (registering regime control d sink).data) :
    (registering regime control d sink).Muted (registering regime control d' sink) ∧
      ((∃ service service', (build regime control d sink).result = some (.ok service) ∧
          (build regime control d' sink).result = some (.ok service') ∧ service.Muted service') ∨
        ((build regime control d' sink).result = (build regime control d sink).result ∧
          ∀ service, (build regime control d sink).result ≠ some (.ok service))) := by
  have begun : ModuleHost.Muted d.serviceId (freshStore d sink).data (freshStore d' sink).data :=
    ⟨rfl, by rw [freshStore, freshStore, silences.serviceId], .nil, fun _ he => (nomatch he), rfl,
      rfl⟩
  have hfresh : freshStore d' sink = (freshStore d sink).withData (freshStore d' sink).data := rfl
  obtain ⟨d₁, muted₁, hrun⟩ :=
    (mirrors_registerModules regime control silences.mutes (freshStore d sink) legible).2 _ begun
  have muted : (registering regime control d sink).Muted (registering regime control d' sink) := by
    refine ⟨d.serviceId, d₁, ?_, muted₁⟩
    unfold registering
    rw [hfresh, hrun]
    cases (registerModules regime control d).run (freshStore d sink) <;> rfl
  refine ⟨muted, ?_⟩
  unfold registering at muted
  unfold build
  rw [hfresh, hrun] at muted ⊢
  cases hend : (registerModules regime control d).run (freshStore d sink) with
  | stop why s => exact .inr ⟨rfl, fun _ h => nomatch h⟩
  | value result s =>
    rw [hend] at muted
    cases result with
    | error cause => exact .inr ⟨rfl, fun _ h => nomatch h⟩
    | ok modules => exact .inl ⟨_, _, rfl, rfl, rfl, ⟨rfl, rfl⟩, ⟨rfl, rfl⟩, muted.settled⟩

end Service

/-! ## Engines -/

/-- The engine `e'` is `e` but for the settings of loggers. -/
structure Engine.Muted (e e' : Engine) : Prop where
  regime : e'.regime = e.regime
  control : e'.control = e.control
  nextHandle : e'.nextHandle = e.nextHandle
  services : ∀ n, Option.Rel Service.Muted (e.services.get? n) (e'.services.get? n)

namespace Engine

variable {e e' : Engine}

theorem Muted.of_empty (h : e.services = Dict.empty) : e.Muted e := by
  refine ⟨rfl, rfl, rfl, fun n => ?_⟩
  rw [h]
  exact .none

theorem register_result (e : Engine) (d : ServiceDescriptor) (sink : Sink) :
    (e.register d sink).result =
      (Service.build e.regime e.control d sink).result.map (·.map fun _ => ⟨e.nextHandle⟩) := by
  unfold register
  rcases hb : (Service.build e.regime e.control d sink).result with _ | cause | service
  all_goals simp only [hb]; rfl

namespace Muted

theorem get?_none (h : e.Muted e') {n : Nat} (hn : e.services.get? n = none) :
    e'.services.get? n = none := by
  have hrel := h.services n
  rw [hn] at hrel
  generalize e'.services.get? n = found at *
  cases hrel
  rfl

theorem get?_some (h : e.Muted e') {n : Nat} {service : Service}
    (hn : e.services.get? n = some service) :
    ∃ service', e'.services.get? n = some service' ∧ service.Muted service' := by
  have hrel := h.services n
  rw [hn] at hrel
  generalize e'.services.get? n = found at *
  cases hrel with
  | some muted => exact ⟨_, rfl, muted⟩

theorem add (h : e.Muted e') {service service' : Service} (muted : service.Muted service') :
    (e.add service).Muted (e'.add service') where
  regime := h.regime
  control := h.control
  nextHandle := congrArg (· + 1) h.nextHandle
  services n := by
    rw [get?_add, get?_add, h.nextHandle]
    split
    · exact .some muted
    · exact h.services n

theorem put (h : e.Muted e') (handle : Handle) {service service' : Service}
    (muted : service.Muted service') : (e.put handle service).Muted (e'.put handle service') where
  regime := h.regime
  control := h.control
  nextHandle := h.nextHandle
  services n := by
    rw [get?_put, get?_put]
    split
    · exact .some muted
    · exact h.services n

theorem release (h : e.Muted e') (handle : Handle) :
    (e.release handle).Muted (e'.release handle) where
  regime := h.regime
  control := h.control
  nextHandle := h.nextHandle
  services n := by
    rw [get?_release, get?_release]
    split
    · exact .none
    · exact h.services n

theorem register (h : e.Muted e') {d d' : ServiceDescriptor} (silences : d'.Silences d)
    (sink : Sink)
    (legible : Legible (Service.registering e.regime e.control d sink).data) :
    (e'.register d' sink).result = (e.register d sink).result ∧
      (e.register d sink).state.Muted (e'.register d' sink).state := by
  rcases (Service.build_silenced silences e.regime e.control sink legible).2 with
    ⟨service, service', hb, hb', muted⟩ | ⟨hsame, hrefused⟩
  · rw [← h.regime, ← h.control] at hb'
    simp only [Engine.register, hb, hb', Effect.returned]
    exact ⟨by rw [h.nextHandle], h.add muted⟩
  · have accepts : ∀ handle, (e.register d sink).result ≠ some (.ok handle) := fun handle hr => by
      obtain ⟨service, hb, -⟩ := register_ok hr
      exact hrefused service hb
    have same : (e'.register d' sink).result = (e.register d sink).result := by
      rw [register_result, register_result, h.regime, h.control, hsame, h.nextHandle]
    rw [register_refused accepts, register_refused (same ▸ accepts)]
    exact ⟨same, h⟩

theorem invoke (h : e.Muted e') (handle : Handle) (module function arguments : String)
    (parameters : CallParameters)
    (legible : ∀ service, e.services.get? handle.number = some service →
      Legible (service.final e.regime module function arguments parameters).data) :
    (e'.invoke handle module function arguments parameters).result =
        (e.invoke handle module function arguments parameters).result ∧
      (e.invoke handle module function arguments parameters).state.Muted
        (e'.invoke handle module function arguments parameters).state := by
  cases hs : e.services.get? handle.number with
  | none =>
    rw [Engine.invoke, Engine.invoke, hs, h.get?_none hs]
    exact ⟨rfl, h⟩
  | some service =>
    obtain ⟨service', hs', muted⟩ := h.get?_some hs
    obtain ⟨same, ended⟩ := muted.invoke e.regime module function arguments parameters
      (legible service hs)
    rw [invoke_of_get? hs, invoke_of_get? hs', h.regime]
    refine ⟨same, h.put handle ?_⟩
    rw [(Service.invoke_of_settled muted.settled _ _ _ _ _).1,
      (Service.invoke_of_settled muted.settled' _ _ _ _ _).1]
    exact muted.put ended

end Muted

end Engine

end ModuleHost
