import ModuleHost.Proofs.Engine.Exchanges
import ModuleHost.Proofs.Engine.Logging
import ModuleHost.Proofs.Engine.Seclusion

/-!
# Forwarded log records

The records that a call emits are those that the settings of the modules let pass.

* `ModuleDescriptor.forwards` — the levels that the settings of a module let pass;
* `forwarded` — the records of exchanges that the settings of a service let pass;
* `Forwarding`, **`Forwarding.rules`**: while a call runs, the records are those of the log calls so
  far, each by the module that made it;
* `Service.lasting_stands` — what is true of services between operations;
* `Registry.Forwards`, **`Registry.forwards_after`**: after every run the records of a call are
  those of its log calls that settings let pass;
* `Registry.forwards_lent` — a module that logs with what another one put into a table.
-/

namespace ModuleHost

open Wasm (Word Store Run Regime)

/-! ## Records -/

/-- The settings of a module let a level pass: its switch, its mask and its filter. -/
def ModuleDescriptor.forwards (m : ModuleDescriptor) (level : LogLevel) : Bool :=
  m.config.loggerEnabled && m.config.loggingMask.allows level &&
    (LogFilter.parse m.config.wasmLog).admits m.importName level

theorem ModuleDescriptor.admits_logger (m : ModuleDescriptor) (serviceId : String)
    (level : LogLevel) : (m.logger serviceId).admits level = m.forwards level := by
  unfold Logger.admits forwards logger Logger.ofSettings LogFilter.admits
  cases (LogFilter.parse m.config.wasmLog).bound? m.importName <;> rfl

/-- The settings of the module at a position let a level pass. -/
def ServiceDescriptor.forwards (d : ServiceDescriptor) (position : Nat) (level : LogLevel) : Bool :=
  d.modules[position]?.any (·.forwards level)

theorem ServiceDescriptor.forwards_eq {d : ServiceDescriptor} {position : Nat}
    {m : ModuleDescriptor} (hm : d.modules[position]? = some m) :
    d.forwards position = (m.logger d.serviceId).admits := by
  funext level
  rw [forwards, hm, m.admits_logger]
  rfl

/-- The records of exchanges that settings let pass and that a sink takes, in order: all but one on
which it breaks down. -/
def forwarded (d : ServiceDescriptor) (sink : Sink) (xs : List Exchange) : List LogRecord :=
  (passed d.forwards (said d.serviceId xs)).filter fun r => !sink.breaksOn r

theorem forwarded_append (d : ServiceDescriptor) (sink : Sink) (xs ys : List Exchange) :
    forwarded d sink (xs ++ ys) = forwarded d sink xs ++ forwarded d sink ys := by
  simp [forwarded]

/-- Of a log call, what the logger of the module lets pass is forwarded. -/
theorem forwarded_log {d : ServiceDescriptor} {m : ModuleDescriptor} {position : Nat}
    (hm : d.modules[position]? = some m) (sink : Sink) (caller : Option Nat)
    (memory : Option Wasm.Memory) (level target targetLength message messageLength : Word) :
    forwarded d sink [.log position caller memory level target targetLength message
        messageLength] =
      (((m.logger d.serviceId).logged memory level target targetLength message
        messageLength).toOption.join.toList.filter fun r => !sink.breaksOn r) :=
  congrArg (List.filter _) (passed_log (m.logger d.serviceId)
    (ServiceDescriptor.forwards_eq hm) caller memory level target targetLength message
    messageLength)

/-! ## While a call runs -/

/-- A log call is made by the instance of the module whose settings it is held against, or by
another one if neither of the two is secluded. -/
def Exchange.Owned (d : ServiceDescriptor) : Exchange → Prop
  | .log position caller .. => position < d.modules.length ∧ ∃ home, caller = some home ∧
      (home = position + 1 ∨ ¬ secludes d.modules home ∧ ¬ secludes d.modules (position + 1))
  | .parameters _ | .sibling .. | .allocated .. | .freed .. => True

/-- The instance that makes a log call. -/
def Exchange.logger? : Exchange → Option Nat
  | .log _ caller .. => caller
  | .parameters _ | .sibling .. | .allocated .. | .freed .. => none

/-- Guest code calls functions of its instance and of the control module, and those of another
instance if neither of the two is secluded; the host calls whatever it likes, with few arguments. -/
def ownCalls (modules : List ModuleDescriptor) (s : Store guests) : Wasm.Calls
  | none, _, arguments => arguments.length ≤ hostArity
  | some home, place, _ => ∃ (origin : Nat) (inst : Wasm.Instance),
      s.instances[origin]? = some inst ∧ place ∈ inst.functions ∧
      (origin = home ∨ origin = 0 ∨ ¬ secludes modules home ∧ ¬ secludes modules origin)

/-- The store of a service while a call runs, `s₀` being the store in which it began. -/
structure Forwarding (d : ServiceDescriptor) (s₀ s : Store guests) : Prop where
  evolves : Evolves s₀ s
  records : s.data.records = forwarded d s₀.data.sink s.data.exchanges
  owned : ∀ x ∈ s.data.exchanges, x.Owned d

namespace Forwarding

variable {d : ServiceDescriptor} {s₀ s : Store guests} {modules : RegisteredModules}

/-- An exchange without a record is noted. -/
theorem note (h : Forwarding d s₀ s) {x : Exchange} (hx : x.Owned d)
    (hr : forwarded d s₀.data.sink [x] = []) : Forwarding d s₀ (noted x s) where
  evolves := { h.evolves with }
  records := by
    show s.data.records = forwarded d s₀.data.sink (s.data.exchanges ++ [x])
    rw [forwarded_append, hr, h.records]
    exact (List.append_nil _).symm
  owned y hy := by
    rcases List.mem_append.1 hy with hy | hy
    · exact h.owned y hy
    · rwa [List.mem_singleton.1 hy]

theorem within_sendRecord (h : Forwarding d s₀ s) {x : Exchange} {r : LogRecord}
    (hx : x.Owned d)
    (hr : forwarded d s₀.data.sink [x] = [r].filter fun r => !s₀.data.sink.breaksOn r) :
    (sendRecord r (noted x s)).Within (Forwarding d s₀) fun _ => True := by
  have hsink : (noted x s).data.sink = s₀.data.sink := h.evolves.sink
  unfold sendRecord
  rw [Run.store_bind, hsink]
  cases hbreaks : s₀.data.sink.breaksOn r with
  | true =>
    refine ⟨h.note hx ?_, trivial⟩
    simp [hr, hbreaks]
  | false =>
    have hkept : forwarded d s₀.data.sink [x] = [r] := by simp [hr, hbreaks]
    refine ⟨{ h.evolves with }, ?_, fun y hy => ?_⟩
    · show s.data.records ++ [r] = forwarded d s₀.data.sink (s.data.exchanges ++ [x])
      rw [forwarded_append, hkept, h.records]
    · rcases List.mem_append.1 hy with hy | hy
      · exact h.owned y hy
      · rwa [List.mem_singleton.1 hy]

theorem within_log (laid : Laid d.serviceId d.modules s₀ modules) (h : Forwarding d s₀ s)
    {place position : Nat} {type : Wasm.FuncType} {caller : Option Nat} (call : GuestCall)
    {level target targetLength message messageLength : Word}
    (held : s.functions[place]? = some (.host type (.log position)))
    (may : ownCalls d.modules s₀ caller place
      [level, target, targetLength, message, messageLength]) :
    (hostFunctions (.log position) call caller
      [level, target, targetLength, message, messageLength] s).Within (Forwarding d s₀)
        fun _ => True := by
  cases caller with
  | none =>
    -- the host passes fewer arguments
    exact absurd may (by simp [ownCalls, hostArity])
  | some home =>
    obtain ⟨origin, inst, hinst, hplace, hcases⟩ := may
    rw [h.evolves.functions] at held
    obtain rfl := laid.owned origin inst place type position hinst hplace held
    have hposition : position < d.modules.length := by
      have := (List.getElem?_eq_some_iff.1 hinst).1
      rw [laid.count] at this
      omega
    obtain ⟨m, hm⟩ : ∃ m, d.modules[position]? = some m := ⟨_, List.getElem?_eq_getElem hposition⟩
    have hlogger : s.data.loggers[position]? = some (m.logger d.serviceId) := by
      rw [h.evolves.loggers, laid.loggers, List.getElem?_map, hm, Option.map_some]
    rw [log_apply hlogger call]
    have hx : Exchange.Owned d (.log position (some home) (snapshot s (some home)) level target
        targetLength message messageLength) :=
      ⟨hposition, home, rfl, hcases.imp Eq.symm fun h => h.resolve_left (Nat.succ_ne_zero _)⟩
    have hforwarded := forwarded_log hm s₀.data.sink (some home) (snapshot s (some home)) level
      target targetLength message messageLength
    refine Wasm.Ended.Within.bind (x := emit _) ?_ fun _ => Run.Keeps.of_pure _
    cases hlogged : (m.logger d.serviceId).logged (snapshot s (some home)) level target
      targetLength message messageLength with
    | error fault =>
      rw [hlogged] at hforwarded
      exact ⟨h.note hx hforwarded, trivial⟩
    | ok record =>
      rw [hlogged] at hforwarded
      cases record with
      | none => exact h.note hx hforwarded
      | some r => exact h.within_sendRecord hx hforwarded

/-- **While a call runs, its records are those of its log calls.** -/
theorem rules (laid : Laid d.serviceId d.modules s₀ modules) (guarded : Guarded d.modules s₀) :
    GuestRules (ownCalls d.modules s₀) (Forwarding d s₀) fun _ => True where
  steady := by
    refine ⟨fun s place m m' hs hm follows => ?_, fun s place g w hs hg => ?_⟩
    · exact ⟨hs.evolves.setMemory hm follows, hs.records, hs.owned⟩
    · exact ⟨{ hs.evolves with }, hs.records, hs.owned⟩
  lenient := ⟨trivial, trivial, trivial⟩
  broken := trivial
  plain _ _ := trivial
  guest s home inst hs hinst s' place arguments hs' reached := by
    rw [hs.evolves.instances, ← hs'.evolves.instances] at hinst
    rw [ownCalls, ← hs'.evolves.instances]
    exact (guarded.evolve hs'.evolves).reached hinst reached
  host _ _ h := h
  log s place type position call caller level target targetLength message messageLength hs held
      may := within_log laid hs call held may
  buffer s x hx hs := by
    cases x with
    | allocated | freed => exact hs.note trivial rfl
    | log | parameters | sibling => exact hx.elim
  parameters _ _ _ hs' := hs'.note trivial rfl
  sibling _ _ _ hs _ := hs.note trivial rfl
  missing _ _ _ _ _ _ := trivial
  failed _ _ _ _ _ _ _ := trivial

end Forwarding

/-! ## Services between operations -/

namespace Service

/-- A service between operations is laid out as its descriptor tells, its tables agree, and nothing
is left of the operations before. -/
structure Stands (d : ServiceDescriptor) (service : Service) : Prop where
  laid : LaidOut d service
  guarded : Guarded d.modules service.store
  sound : service.Sound
  settled : service.Settled

theorem Sound.evolves_final {service : Service} (h : service.Sound) (regime : Regime)
    (module function arguments : String) (parameters : CallParameters) :
    Evolves service.store (service.final regime module function arguments parameters) :=
  (final_of_keeps (.refl _) regime module function arguments parameters fun m ordered =>
    h.wired.invariant.rules.keeps_callModule
      (fun _ _ hs => ⟨{ hs.evolves with }, hs.exchanges⟩) regime m function ordered
      parameters).evolves

theorem lasting_stands : Lasting Stands where
  built regime control d sink service whole h :=
    ⟨built_laidOut regime control d sink service whole h,
      built_guarded regime control d sink service whole h, (build_ok h).1,
      lasting_settled.built regime control d sink service whole h⟩
  invoked regime d service module function arguments parameters h := by
    have evolves := h.sound.evolves_final regime module function arguments parameters
    rw [(invoke_of_settled h.settled regime module function arguments parameters).1]
    exact ⟨h.laid.evolve evolves.settled, h.guarded.evolve evolves.settled, h.sound.put evolves,
      settled_put service _⟩

/-- The records of an invocation are those of its log calls. -/
theorem Stands.forwarding {d : ServiceDescriptor} {service : Service} (h : Stands d service)
    (regime : Regime) (module function arguments : String) (parameters : CallParameters) :
    Forwarding d service.store (service.final regime module function arguments parameters) := by
  have begun : Forwarding d service.store service.store := by
    refine ⟨.refl _, ?_, ?_⟩
    · rw [h.settled.records, h.settled.exchanges]
      rfl
    · rw [h.settled.exchanges]
      exact fun x hx => nomatch hx
  exact final_of_keeps begun regime module function arguments parameters fun m ordered =>
    (Forwarding.rules h.laid h.guarded).keeps_callModule
      (fun p s hs => ⟨{ hs.evolves with }, hs.records, hs.owned⟩) regime m function ordered
      parameters

end Service

/-! ## Runs -/

theorem serviceId_of_latest {t : List Traffic} {id : String} {h : Handle} {d : ServiceDescriptor}
    (hl : latest t id = some (h, d)) : d.serviceId = id := by
  obtain ⟨x, -, hx⟩ := List.mem_filterMap.1 (List.mem_of_getLast? hl)
  cases x with
  | registered h' d' =>
    obtain ⟨hid, heq⟩ := Option.ite_none_right_eq_some.1 hx
    cases heq
    exact hid
  | compiled | invoked | released => cases hx

/-- A log call that the settings of its module do not let pass is noted and does nothing else. -/
theorem log_of_filtered {s : Store guests} {m : ModuleDescriptor} {serviceId : String}
    {position : Nat} (hm : s.data.loggers[position]? = some (m.logger serviceId))
    {level : Word} (filtered : m.forwards (.ofGuest level.toInt32) = false) (call : GuestCall)
    (caller : Option Nat) (target targetLength message messageLength : Word) :
    hostFunctions (.log position) call caller
        [level, target, targetLength, message, messageLength] s =
      .value [] (noted (.log position caller (snapshot s caller) level target targetLength message
        messageLength) s) := by
  rw [log_apply hm, logged_of_filtered (by rwa [m.admits_logger])]
  rfl

/-- A log call that its settings let pass and that names a range outside of memory ends there. -/
theorem log_of_unreadable {s : Store guests} {m : ModuleDescriptor} {serviceId : String}
    {position : Nat} (hm : s.data.loggers[position]? = some (m.logger serviceId))
    {level : Word} (passes : m.forwards (.ofGuest level.toInt32) = true) (call : GuestCall)
    (caller : Option Nat) {target targetLength message messageLength : Word}
    (unreadable : ∀ memory, snapshot s caller = some memory →
      Unreadable memory target targetLength ∨ Unreadable memory message messageLength) :
    ∃ fault, hostFunctions (.log position) call caller
        [level, target, targetLength, message, messageLength] s =
      .stop (.raised fault) (noted (.log position caller (snapshot s caller) level target
        targetLength message messageLength) s) := by
  obtain ⟨fault, hfault⟩ := logged_fails (g := m.logger serviceId) (by rwa [m.admits_logger])
    unreadable
  exact ⟨fault, by rw [log_apply hm, hfault]; rfl⟩

/-- A log call that its settings let pass and whose ranges hold text sends a record, if the sink
does not break down on it. -/
theorem log_of_heard {s : Store guests} {m : ModuleDescriptor} {serviceId : String}
    {position : Nat} (hm : s.data.loggers[position]? = some (m.logger serviceId))
    {level : Word} (passes : m.forwards (.ofGuest level.toInt32) = true) (call : GuestCall)
    {caller : Option Nat} {target targetLength message messageLength : Word} {text : String}
    (heard : heard? (snapshot s caller) target targetLength message messageLength = some text)
    (taken : s.data.sink.breaksOn ⟨serviceId, text, .ofGuest level.toInt32⟩ = false) :
    hostFunctions (.log position) call caller
        [level, target, targetLength, message, messageLength] s =
      let noted := noted (.log position caller (snapshot s caller) level target targetLength message
        messageLength) s
      .value [] { noted with
        data := { noted.data with
          records := s.data.records ++ [⟨serviceId, text, .ofGuest level.toInt32⟩] } } := by
  have hr := logged_join (m.logger serviceId) (snapshot s caller) level target targetLength message
    messageLength
  rw [m.admits_logger, if_pos passes, heard] at hr
  cases hlogged : (m.logger serviceId).logged (snapshot s caller) level target targetLength message
      messageLength with
  | error fault =>
    rw [hlogged] at hr
    cases hr
  | ok record =>
    rw [hlogged] at hr
    obtain rfl : record = some ⟨serviceId, text, .ofGuest level.toInt32⟩ := hr
    exact log_of_taken hm call hlogged (by simpa using taken)

namespace Registry

variable {regime : Regime}

/-- An id leads to a service that was registered from a descriptor, the last one of that id in the
journal `t`. -/
def Live (r : Registry (Engine.controlRuntime regime)) (t : List Traffic) (id : String)
    (d : ServiceDescriptor) (service : Service) : Prop :=
  ∃ (e : Engine) (entry : ServiceEntry), r.runtime = some e ∧ r.services.get? id = some entry ∧
    e.services.get? entry.handle.number = some service ∧ latest t id = some (entry.handle, d)

/-- The log records of a service are those that its settings let pass. -/
structure Forwards (r : Registry (Engine.controlRuntime regime)) (t : List Traffic) : Prop where
  /-- Every id leads to a service. -/
  live : ∀ id entry, r.services.get? id = some entry → ∃ d service, r.Live t id d service
  id : ∀ id d service, r.Live t id d service → d.serviceId = id
  /-- The records of a call are those of its log calls, in order. -/
  records : ∀ id d service, r.Live t id d service → ∀ function args parameters,
    (r.callService id function args parameters).activity.records =
      forwarded d service.store.data.sink (r.exchanges id function args parameters)
  /-- Every log call is held against the settings of the module whose instance makes it, unless that
  module and the one for which the function was made share tables. -/
  owned : ∀ id d service, r.Live t id d service → ∀ function args parameters,
    ∀ x ∈ r.exchanges id function args parameters, x.Owned d
  /-- The modules have their instances in order, behind that of the control module. -/
  placed : ∀ id d service, r.Live t id d service → ∀ name m, service.modules.get? name = some m →
    ∃ (position : Nat) (md : ModuleDescriptor), d.modules[position]? = some md ∧
      md.importName = name ∧ m.place = position + 1
  /-- What does not pass succeeds, whatever the ranges are, and emits nothing. -/
  filtered : ∀ id d service, r.Live t id d service → ∀ s, Evolves service.store s →
    ∀ (position : Nat) m call caller (level : Word) target targetLength message messageLength,
      d.modules[position]? = some m → m.forwards (.ofGuest level.toInt32) = false →
        hostFunctions (.log position) call caller
            [level, target, targetLength, message, messageLength] s =
          .value [] (noted (.log position caller (snapshot s caller) level target targetLength
            message messageLength) s)
  /-- What passes but cannot be read ends the call that logs and emits nothing. -/
  unreadable : ∀ id d service, r.Live t id d service → ∀ s, Evolves service.store s →
    ∀ (position : Nat) m call caller (level : Word) target targetLength message messageLength,
      d.modules[position]? = some m → m.forwards (.ofGuest level.toInt32) = true →
        (∀ memory, snapshot s caller = some memory →
          Unreadable memory target targetLength ∨ Unreadable memory message messageLength) →
        ∃ fault, hostFunctions (.log position) call caller
            [level, target, targetLength, message, messageLength] s =
          .stop (.raised fault) (noted (.log position caller (snapshot s caller) level target
            targetLength message messageLength) s)
  /-- What passes and is text is sent. -/
  sent : ∀ id d service, r.Live t id d service → ∀ s, Evolves service.store s →
    ∀ (position : Nat) m call caller (level : Word) target targetLength message messageLength text,
      d.modules[position]? = some m → m.forwards (.ofGuest level.toInt32) = true →
        heard? (snapshot s caller) target targetLength message messageLength = some text →
          service.store.data.sink.breaksOn ⟨id, text, .ofGuest level.toInt32⟩ = false →
            hostFunctions (.log position) call caller
                [level, target, targetLength, message, messageLength] s =
              let noted := noted (.log position caller (snapshot s caller) level target targetLength
                message messageLength) s
              .value [] { noted with
                data := { noted.data with
                  records := s.data.records ++ [⟨id, text, .ofGuest level.toInt32⟩] } }

namespace Housed

variable {r : Registry (Engine.controlRuntime regime)} {t : List Traffic}

theorem stands (hh : Housed Service.Stands r t) {id : String} {d : ServiceDescriptor}
    {service : Service} (live : r.Live t id d service) : Service.Stands d service := by
  obtain ⟨e, entry, he, hentry, hservice, hl⟩ := live
  obtain ⟨d', hl', stands⟩ := (hh.hosts e he).tracked id entry service hentry hservice
  rw [hl] at hl'
  cases hl'
  exact stands

/-- A call either reaches the live service of its id or does nothing. -/
theorem forwarding (hh : Housed Service.Stands r t) {id : String} {d : ServiceDescriptor}
    {service : Service} (live : r.Live t id d service) (function : String) (args : CallArgs)
    (parameters : CallParameters) :
    r.final? id function args parameters = none ∨
      ∃ s, r.final? id function args parameters = some s ∧ Forwarding d service.store s := by
  rcases r.final?_cases id function args parameters with hnone |
    ⟨e, entry, service', arguments, he, hentry, hservice, hfinal⟩
  · exact .inl hnone
  · refine .inr ⟨_, hfinal, ?_⟩
    have stands := hh.stands live
    obtain ⟨e', entry', he', hentry', hservice', -⟩ := live
    obtain rfl : e = e' := Option.some.inj (he.symm.trans he')
    obtain rfl : entry = entry' := Option.some.inj (hentry.symm.trans hentry')
    obtain rfl : service' = service := Option.some.inj (hservice.symm.trans hservice')
    exact stands.forwarding _ _ _ _ _

theorem loggers (hh : Housed Service.Stands r t) {id : String} {d : ServiceDescriptor}
    {service : Service} (live : r.Live t id d service) {s : Store guests}
    (evolves : Evolves service.store s) {position : Nat} {m : ModuleDescriptor}
    (hm : d.modules[position]? = some m) :
    s.data.loggers[position]? = some (m.logger d.serviceId) := by
  rw [evolves.loggers, (hh.stands live).laid.loggers, List.getElem?_map, hm, Option.map_some]

theorem forwards (hh : Housed Service.Stands r t) : r.Forwards t where
  live id entry hentry := by
    cases hr : r.runtime with
    | none =>
      have hp : r.phase ≠ .initialized := by
        intro hp
        have hsome := hh.follows.consistent.runtime_iff.2 hp
        rw [hr] at hsome
        cases hsome
      rw [hh.follows.consistent.services_empty hp] at hentry
      cases hentry
    | some e =>
      obtain ⟨service, hservice⟩ := (hh.hosts e hr).linked.live id entry hentry
      obtain ⟨d, hl, -⟩ := (hh.hosts e hr).tracked id entry service hentry hservice
      exact ⟨d, service, e, entry, hr, hentry, hservice, hl⟩
  id _ _ _ := fun ⟨_, _, _, _, _, hl⟩ => serviceId_of_latest hl
  records id d service live function args parameters := by
    rw [callService_records fun e n service he hservice => by
      obtain ⟨_, stands⟩ := (hh.hosts e he).exists_descriptor hservice
      exact stands.settled]
    unfold Registry.exchanges
    rcases hh.forwarding live function args parameters with hnone | ⟨s, hs, forwarding⟩
    · rw [hnone]
      rfl
    · rw [hs]
      exact forwarding.records
  owned id d service live function args parameters := by
    unfold Registry.exchanges
    rcases hh.forwarding live function args parameters with hnone | ⟨s, hs, forwarding⟩
    · rw [hnone]
      exact fun x hx => nomatch hx
    · rw [hs]
      exact forwarding.owned
  placed id d service live := (hh.stands live).laid.places
  filtered id d service live s evolves position m call caller level target targetLength message
      messageLength hm filtered :=
    log_of_filtered (hh.loggers live evolves hm) filtered call caller _ _ _ _
  unreadable id d service live s evolves position m call caller level target targetLength message
      messageLength hm passes unreadable :=
    log_of_unreadable (hh.loggers live evolves hm) passes call caller unreadable
  sent id d service live s evolves position m call caller level target targetLength message
      messageLength text hm passes heard taken := by
    have hid : d.serviceId = id := by
      obtain ⟨_, _, _, _, _, hl⟩ := live
      exact serviceId_of_latest hl
    have hlogger := hh.loggers live evolves hm
    rw [hid] at hlogger
    exact log_of_heard hlogger passes call heard (by rw [evolves.sink, taken])

end Housed

/-- **After every run the records of a call are those of its log calls that settings let pass.** -/
theorem forwards_after (regime : Regime) (as : List Action) :
    ((uninitialized : Registry (Engine.controlRuntime regime)).after as).Forwards
      ((uninitialized : Registry (Engine.controlRuntime regime)).journal as) :=
  (housed_after Service.lasting_stands as).forwards

/-- A registry with the service whose modules share a table. -/
def lent : Registry (Engine.controlRuntime {}) :=
  uninitialized.after [.init tabled, .operate (.create sharing .total)]

/-- **What a module logs through a table that it shares with another one is held against the
settings of that one**: the first module of the service logs and its own let nothing pass. -/
theorem forwards_lent :
    (lent.exchanges "s" "g" (.positional []) {}).filterMap Exchange.logger? = [1] ∧
      (∀ m, sharing.modules[0]? = some m → ∀ level, m.forwards level = false) ∧
      (lent.callService "s" "g" (.positional []) {}).activity.records = [⟨"s", "0", .info⟩] := by
  refine ⟨by decide +kernel, ?_, by decide +kernel⟩
  intro m hm level
  cases hm
  cases level <;> decide +kernel

end Registry

end ModuleHost
