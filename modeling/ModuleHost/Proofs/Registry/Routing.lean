import ModuleHost.Proofs.Registry.Ledger

/-!
# Where calls go

A call goes to the facade of the service that was last registered under its id, and nothing else
goes anywhere.

* `latest` — the last registration under an id that a journal tells of;
* `Action.creates?`, `Action.calls?` — the service that an operation would create, the function that
  it would call;
* `Registry.Follows` — a registry holds the latest registrations of a journal;
* `Registry.follows_after` — it does so after every run;
* `Registry.Routing` — what ids, facades and calls are;
* **`Registry.Follows.routing`**: calls go to the facade of the latest registration.
-/

namespace ModuleHost

/-- The registration under an id that an entry of a journal tells of. -/
def Traffic.registers? (id : String) : Traffic → Option (Handle × ServiceDescriptor)
  | .registered h d => if d.serviceId = id then some (h, d) else none
  | _ => none

/-- The last registration under an id that a journal tells of. -/
def latest (t : List Traffic) (id : String) : Option (Handle × ServiceDescriptor) :=
  (t.filterMap (Traffic.registers? id)).getLast?

theorem latest_append (t t' : List Traffic) (id : String) :
    latest (t ++ t') id = (latest t' id).or (latest t id) := by
  rw [latest, List.filterMap_append, List.getLast?_append]
  rfl

theorem latest_of_issued {t : List Traffic} (h : issued t = []) (id : String) :
    latest t id = none := by
  have hnone : t.filterMap (Traffic.registers? id) = [] := by
    refine List.filterMap_eq_nil_iff.2 fun x hx => ?_
    have hx' := List.filterMap_eq_nil_iff.1 h x hx
    cases x with
    | registered => cases hx'
    | compiled | invoked | released => rfl
  rw [latest, hnone, List.getLast?_nil]

theorem latest_registered (h : Handle) (d : ServiceDescriptor) (hs : List Handle) (id : String) :
    latest (.registered h d :: hs.map .released) id =
      if id = d.serviceId then some (h, d) else none := by
  have hrest : latest (hs.map .released) id = none := latest_of_issued (issued_map_released hs) id
  rw [← List.singleton_append, latest_append, hrest, Option.none_or]
  by_cases hid : id = d.serviceId
  · simp [latest, Traffic.registers?, hid]
  · simp [latest, Traffic.registers?, hid, Ne.symm hid]

theorem latest_isSome {t : List Traffic} {id : String} :
    (latest t id).isSome ↔ ∃ h d, .registered h d ∈ t ∧ d.serviceId = id := by
  rw [latest, List.getLast?_isSome, ne_eq, List.filterMap_eq_nil_iff, not_forall]
  constructor
  · rintro ⟨x, hx⟩
    obtain ⟨hmem, hx⟩ := Classical.not_imp.1 hx
    cases x with
    | registered h d =>
      refine ⟨h, d, hmem, of_not_not fun hid => hx (if_neg hid)⟩
    | compiled | invoked | released => exact absurd rfl hx
  · rintro ⟨h, d, hmem, hid⟩
    exact ⟨.registered h d, fun hx => by simp [Traffic.registers?, hid] at hx; exact hx hmem⟩

/-- The service that an operation would create. -/
def Action.creates? : Action → Option ServiceDescriptor
  | .operate (.create d _) => some d
  | .serve _ (.createService id modules config envs) =>
    (ServiceDescriptor.resolve id modules config envs).toOption
  | _ => none

/-- The id and the function that an operation would call. -/
def Action.calls? : Action → Option (String × String)
  | .operate (.call id function _ _) => some (id, function)
  | .serve _ (.callService id function _ _) => some (id, function)
  | _ => none

namespace Registry

variable {R : ControlRuntime}

/-- A registry that is not terminated holds the latest registrations of a journal. -/
structure Follows (r : Registry R) (t : List Traffic) : Prop where
  consistent : r.Consistent
  entries : r.phase ≠ .terminated → ∀ id,
    Option.Rel (fun entry last => entry.handle = last.1 ∧ last.2.facadeName? = some entry.facade)
      (r.services.get? id) (latest t id)

theorem follows_uninitialized : (uninitialized : Registry R).Follows [] where
  consistent := consistent_uninitialized
  entries _ _ := .none

namespace Follows

variable {r r' : Registry R} {t t' : List Traffic}

theorem latest_of_entry (hf : r.Follows t) (hp : r.phase ≠ .terminated) {id : String}
    {entry : ServiceEntry} (he : r.services.get? id = some entry) :
    ∃ d, latest t id = some (entry.handle, d) ∧ d.facadeName? = some entry.facade := by
  have hrel := hf.entries hp id
  rw [he] at hrel
  cases hl : latest t id with
  | none =>
    rw [hl] at hrel
    cases hrel
  | some last =>
    rw [hl] at hrel
    obtain ⟨hhandle, hfacade⟩ := Option.rel_some_some.1 hrel
    exact ⟨last.2, by rw [hhandle], hfacade⟩

theorem entry_of_latest (hf : r.Follows t) (hp : r.phase ≠ .terminated) {id : String} {h : Handle}
    {d : ServiceDescriptor} (hl : latest t id = some (h, d)) :
    ∃ facade, d.facadeName? = some facade ∧ r.services.get? id = some ⟨h, facade⟩ := by
  have hrel := hf.entries hp id
  rw [hl] at hrel
  cases he : r.services.get? id with
  | none =>
    rw [he] at hrel
    cases hrel
  | some entry =>
    rw [he] at hrel
    obtain ⟨rfl, hfacade⟩ := Option.rel_some_some.1 hrel
    exact ⟨entry.facade, hfacade, rfl⟩

theorem absent_iff (hf : r.Follows t) (hp : r.phase ≠ .terminated) (id : String) :
    r.services.get? id = none ↔ latest t id = none := by
  have hrel := hf.entries hp id
  generalize r.services.get? id = entry at hrel ⊢
  generalize latest t id = last at hrel ⊢
  cases hrel <;> simp

/-- Traffic that registers nothing leaves the services alone. -/
theorem quiet (hf : r.Follows t) (hc : r'.Consistent) (hi : issued t' = [])
    (services : r'.services = r.services)
    (going : r'.phase ≠ .terminated → r.phase ≠ .terminated) : r'.Follows (t ++ t') where
  consistent := hc
  entries hp id := by
    rw [services, latest_append, latest_of_issued hi, Option.none_or]
    exact hf.entries (going hp) id

/-- A new service goes under its id. -/
theorem enter (hf : r.Follows t) (hc : r'.Consistent) {h : Handle} {d : ServiceDescriptor}
    {facade : String} (hs : List Handle) (facade_eq : d.facadeName? = some facade)
    (services : r'.services = r.services.insert d.serviceId ⟨h, facade⟩)
    (going : r.phase ≠ .terminated) :
    r'.Follows (t ++ .registered h d :: hs.map .released) where
  consistent := hc
  entries _ id := by
    rw [services, latest_append, latest_registered, Dict.get?_insert]
    split
    · exact .some ⟨rfl, facade_eq⟩
    · exact hf.entries going id

end Follows

theorem Step.follows {r r' : Registry R} {t t' : List Traffic} (hs : Step r r' t')
    (hf : r.Follows t) : r'.Follows (t ++ t') := by
  have hc := hs.consistent hf.consistent
  cases hs with
  | still => simpa using hf
  | notCompiled => exact hf.quiet hc rfl rfl id
  | compiled phase => exact hf.quiet hc rfl rfl fun _ => by simp [phase]
  | notRegistered => exact hf.quiet hc rfl rfl id
  | registered phase runtime facade_eq accepted absent =>
    exact hf.enter hc [] facade_eq rfl (by simp [phase])
  | @replaced s d sink facade h old phase runtime facade_eq accepted present =>
    exact hf.enter hc [old.handle] facade_eq rfl (by simp [phase])
  | invoked => exact hf.quiet hc rfl rfl id
  | terminated => exact ⟨hc, fun hp => absurd rfl hp⟩

theorem follows_after (as : List Action) :
    ((uninitialized : Registry R).after as).Follows ((uninitialized : Registry R).journal as) :=
  run_induction (P := fun r t => r.Follows t) (fun _ _ _ _ hf hs => hs.follows hf) as _ []
    follows_uninitialized

/-! ## Traffic of one operation -/

/-- A creation that succeeds registers its service; one that fails asks for nothing. -/
theorem createService_cases (r : Registry R) (d : ServiceDescriptor) (sink : Sink) :
    (∃ (h : Handle) (hs : List Handle), (r.createService d sink).result = some (.ok ()) ∧
      (r.createService d sink).activity.traffic = .registered h d :: hs.map .released) ∨
    ((r.createService d sink).result ≠ some (.ok ()) ∧
      (r.createService d sink).activity.traffic = []) := by
  unfold createService
  cases r.ready with
  | error e => exact .inr ⟨by simp [Outcome.still], rfl⟩
  | ok s =>
    cases d.facadeName? with
    | none => exact .inr ⟨by simp [Outcome.still], rfl⟩
    | some facade =>
      simp only [register]
      rcases (R.register s d sink).result with _ | e | h
      · exact .inr ⟨by simp, rfl⟩
      · exact .inr ⟨by simp, rfl⟩
      · refine .inl ⟨h, (r.handleOf d.serviceId).toList, rfl, ?_⟩
        simp only [enter, handleOf]
        cases r.services.get? d.serviceId <;> rfl

theorem callService_cases (r : Registry R) (id function : String) (args : CallArgs)
    (parameters : CallParameters) :
    (r.callService id function args parameters).activity.traffic = [] ∨
      ∃ entry arguments, r.phase = .initialized ∧ r.services.get? id = some entry ∧
        (r.callService id function args parameters).activity.traffic =
          [.invoked entry.handle entry.facade function arguments parameters] := by
  unfold callService
  cases hs : r.ready with
  | error e => exact .inl rfl
  | ok s =>
    cases he : r.services.get? id with
    | none => exact .inl rfl
    | some entry =>
      cases ha : args.encode with
      | error e => exact .inl rfl
      | ok arguments => exact .inr ⟨entry, arguments, (ready_eq_ok hs).1, rfl, rfl⟩

section

variable {r : Registry R} {a : Action}

theorem perform_of_creates (hg : r.gate = .ok ()) {d : ServiceDescriptor}
    (h : a.creates? = some d) : ∃ sink, r.perform a = (r.createService d sink).map .done := by
  cases a with
  | init | terminate => cases h
  | operate op =>
    cases op with
    | create d' sink =>
      cases h
      exact ⟨sink, rfl⟩
    | call => cases h
  | serve sink command =>
    cases command with
    | createService id modules config envs =>
      refine ⟨sink, ?_⟩
      change (r.resolveAndCreate sink id modules config envs).map Reply.done = _
      rw [Action.creates?] at h
      rw [resolveAndCreate, hg]
      cases hd : ServiceDescriptor.resolve id modules config envs with
      | error e =>
        rw [hd] at h
        cases h
      | ok d' =>
        rw [hd] at h
        cases h
        rfl
    | init | callService | serviceIds | facadeOf | terminate => cases h

theorem perform_of_calls {id function : String} (h : a.calls? = some (id, function)) :
    ∃ args parameters, r.perform a = (r.callService id function args parameters).map .value := by
  cases a with
  | init | terminate => cases h
  | operate op =>
    cases op with
    | create => cases h
    | call id' function' args parameters =>
      cases h
      exact ⟨args, parameters, rfl⟩
  | serve sink command =>
    cases command with
    | callService id' function' args parameters =>
      cases h
      exact ⟨args, parameters, rfl⟩
    | init | createService | serviceIds | facadeOf | terminate => cases h

theorem traffic_init (r : Registry R) (control : Bytes) :
    ∀ x ∈ (r.init control).activity.traffic, x = .compiled control := by
  unfold Registry.init
  cases r.phase with
  | initialized | terminated => exact fun x hx => nomatch hx
  | uninitialized => cases R.compile control <;> exact fun x hx => List.mem_singleton.1 hx

theorem traffic_terminate (r : Registry R) :
    ∀ x ∈ r.terminate.activity.traffic, ∃ h, x = .released h := by
  unfold Registry.terminate releases
  split
  · exact fun x hx => nomatch hx
  · cases r.runtime with
    | none => exact fun x hx => nomatch hx
    | some s =>
      intro x hx
      obtain ⟨entry, -, rfl⟩ := List.mem_map.1 hx
      exact ⟨entry.handle, rfl⟩

theorem traffic_unresolved (r : Registry R) (sink : Sink) {id : String} {modules : ModuleSet}
    {config : Option ServiceConfig} {envs : Option Envs}
    (h : (ServiceDescriptor.resolve id modules config envs).toOption = none) :
    (r.resolveAndCreate sink id modules config envs).activity.traffic = [] := by
  unfold resolveAndCreate
  cases r.gate with
  | error e => rfl
  | ok u =>
    cases hd : ServiceDescriptor.resolve id modules config envs with
    | error e => rfl
    | ok d =>
      rw [hd] at h
      cases h

theorem traffic_of_other (hcreates : a.creates? = none) (hcalls : a.calls? = none) :
    ∀ x ∈ (r.perform a).activity.traffic,
      (∃ control, x = .compiled control) ∨ ∃ h, x = .released h := by
  cases a with
  | init control => exact fun x hx => .inl ⟨control, traffic_init r control x hx⟩
  | terminate => exact fun x hx => .inr (traffic_terminate r x hx)
  | operate op =>
    cases op with
    | create => cases hcreates
    | call => cases hcalls
  | serve sink command =>
    cases command with
    | init control => exact fun x hx => .inl ⟨_, traffic_init r control.bytes x hx⟩
    | terminate => exact fun x hx => .inr (traffic_terminate r x hx)
    | createService id modules config envs =>
      have h := traffic_unresolved r sink hcreates
      intro x hx
      change x ∈ (r.resolveAndCreate sink id modules config envs).activity.traffic at hx
      rw [h] at hx
      cases hx
    | callService => cases hcalls
    | serviceIds | facadeOf => exact fun x hx => nomatch hx

end

/-- What ids, facades and calls are in a registry whose journal is `t`. -/
structure Routing (r : Registry R) (t : List Traffic) : Prop where
  /-- The journal tells of the creations that succeed. -/
  registered_iff : ∀ a d, (∃ h, .registered h d ∈ (r.perform a).activity.traffic) ↔
    a.creates? = some d ∧ (r.perform a).result = some (.done (.ok ()))
  serviceIds_sorted : r.serviceIds.Pairwise (· < ·)
  mem_serviceIds : ∀ id, id ∈ r.serviceIds ↔ ∃ h d, .registered h d ∈ t ∧ d.serviceId = id
  facadeOf : ∀ id, r.facadeOf id = (latest t id).bind (·.2.facadeName?)
  callService_unknown : ∀ id, latest t id = none → ∀ function args parameters,
    r.callService id function args parameters = .still (.error (.serviceNotFound id)) r
  callService_unreadable : ∀ id, (latest t id).isSome → ∀ function args parameters e,
    args.encode = .error e →
      r.callService id function args parameters = .still (.error (.marshal e)) r
  /-- A call invokes its function once, at the facade of the latest registration. -/
  callService : ∀ id h d, latest t id = some (h, d) → ∃ s facade,
    r.runtime = some s ∧ d.facadeName? = some facade ∧ ∀ function args parameters arguments,
      args.encode = .ok arguments → r.callService id function args parameters =
        let e := R.invoke s h facade function arguments parameters
        ⟨e.result.map (readAnswer function), { r with runtime := some e.state },
          ⟨e.records, [.invoked h facade function arguments parameters]⟩⟩
  /-- Nothing but a call of a service invokes a function. -/
  invoked : ∀ a h module function arguments parameters,
    .invoked h module function arguments parameters ∈ (r.perform a).activity.traffic →
      ∃ id d, a.calls? = some (id, function) ∧ latest t id = some (h, d) ∧
        d.facadeName? = some module

section

variable {r : Registry R} {t : List Traffic}

theorem registered_iff (hg : r.gate = .ok ()) (a : Action) (d : ServiceDescriptor) :
    (∃ h, .registered h d ∈ (r.perform a).activity.traffic) ↔
      a.creates? = some d ∧ (r.perform a).result = some (.done (.ok ())) := by
  cases hcreates : a.creates? with
  | some d' =>
    obtain ⟨sink, hperform⟩ := perform_of_creates hg hcreates
    rw [hperform]
    rcases r.createService_cases d' sink with ⟨h, hs, hok, htraffic⟩ | ⟨hfailed, htraffic⟩
    · simp [Outcome.map, hok, htraffic, eq_comm]
    · rw [Outcome.map, htraffic]
      constructor
      · rintro ⟨_, hmem⟩
        cases hmem
      · rintro ⟨-, hok⟩
        obtain ⟨result, hresult, hdone⟩ := Option.map_eq_some_iff.1 hok
        cases hdone
        exact absurd hresult hfailed
  | none =>
    refine ⟨?_, fun h => absurd h.1 (by simp)⟩
    rintro ⟨h, hmem⟩
    cases hcalls : a.calls? with
    | none =>
      rcases traffic_of_other hcreates hcalls _ hmem with ⟨_, h⟩ | ⟨_, h⟩ <;> cases h
    | some call =>
      obtain ⟨args, parameters, hperform⟩ := perform_of_calls hcalls
      rw [hperform, Outcome.map] at hmem
      rcases r.callService_cases call.1 call.2 args parameters with h | ⟨_, _, _, _, h⟩
      · rw [h] at hmem
        cases hmem
      · rw [h] at hmem
        cases List.mem_singleton.1 hmem

theorem Follows.invoked (hf : r.Follows t) (hg : r.gate = .ok ()) {a : Action} {h : Handle}
    {module function arguments : String} {parameters : CallParameters}
    (hmem : .invoked h module function arguments parameters ∈ (r.perform a).activity.traffic) :
    ∃ id d, a.calls? = some (id, function) ∧ latest t id = some (h, d) ∧
      d.facadeName? = some module := by
  cases hcalls : a.calls? with
  | some call =>
    obtain ⟨id, function'⟩ := call
    obtain ⟨args, parameters', hperform⟩ := perform_of_calls hcalls
    rw [hperform, Outcome.map] at hmem
    rcases r.callService_cases id function' args parameters' with ht | ⟨entry, _, hp, he, ht⟩
    · rw [ht] at hmem
      cases hmem
    · rw [ht] at hmem
      cases List.mem_singleton.1 hmem
      obtain ⟨d, hl, hfacade⟩ := hf.latest_of_entry (by simp [hp]) he
      exact ⟨id, d, rfl, hl, hfacade⟩
  | none =>
    cases hcreates : a.creates? with
    | none => rcases traffic_of_other hcreates hcalls _ hmem with ⟨_, h⟩ | ⟨_, h⟩ <;> cases h
    | some d =>
      obtain ⟨sink, hperform⟩ := perform_of_creates hg hcreates
      rw [hperform, Outcome.map] at hmem
      rcases r.createService_cases d sink with ⟨h, hs, -, ht⟩ | ⟨-, ht⟩
      · simp [ht] at hmem
      · rw [ht] at hmem
        cases hmem

/-- **A registry that follows its journal routes calls to the facade last registered.** -/
theorem Follows.routing (hf : r.Follows t) (hp : r.phase = .initialized) : r.Routing t := by
  have hg : r.gate = .ok () := by rw [gate, hp]
  have hgoing : r.phase ≠ .terminated := by simp [hp]
  obtain ⟨s, hs⟩ := Option.isSome_iff_exists.1 (hf.consistent.runtime_iff.2 hp)
  have hready : r.ready = .ok s := by rw [ready, hg, hs]
  constructor
  case registered_iff => exact registered_iff hg
  case serviceIds_sorted =>
    exact List.pairwise_map.2 (r.services.sorted.imp compareOfLessAndEq_eq_lt.1)
  case mem_serviceIds =>
    intro id
    rw [← latest_isSome, Option.isSome_iff_ne_none, ne_eq, ← hf.absent_iff hgoing, ← ne_eq,
      ← Option.isSome_iff_ne_none, Option.isSome_iff_exists]
    exact Dict.mem_keys
  case facadeOf =>
    intro id
    rw [Registry.facadeOf]
    cases he : r.services.get? id with
    | none =>
      rw [(hf.absent_iff hgoing id).1 he]
      rfl
    | some entry =>
      obtain ⟨d, hl, hfacade⟩ := hf.latest_of_entry hgoing he
      rw [hl, Option.map_some, Option.bind_some, hfacade]
  case callService_unknown =>
    intro id hl function args parameters
    rw [Registry.callService, hready, (hf.absent_iff hgoing id).2 hl]
  case callService_unreadable =>
    intro id hl function args parameters e ha
    obtain ⟨⟨h, d⟩, hl⟩ := Option.isSome_iff_exists.1 hl
    obtain ⟨facade, -, he⟩ := hf.entry_of_latest hgoing hl
    rw [Registry.callService, hready, he, ha]
  case callService =>
    intro id h d hl
    obtain ⟨facade, hfacade, he⟩ := hf.entry_of_latest hgoing hl
    refine ⟨s, facade, hs, hfacade, fun function args parameters arguments ha => ?_⟩
    rw [Registry.callService, hready, he, ha]
    rfl
  case invoked => exact fun a h module function arguments parameters => hf.invoked hg

end

end Registry

end ModuleHost
