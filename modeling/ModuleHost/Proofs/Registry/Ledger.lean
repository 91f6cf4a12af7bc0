import Mathlib.Data.List.Induction
import ModuleHost.Control.Scripted
import ModuleHost.Engine.Control
import ModuleHost.Proofs.Registry.Lifecycle

/-!
# The ledger of handles

Every handle that the runtime of a registry gives out is stored under one id until it is released,
and it is released once.

* `ControlRuntime.Reaches` — the states of a runtime, each with the handles it has given out;
* `ControlRuntime.IssuesFresh` — a registration never gives a handle out again;
* `issued`, `released`, `Orderly` — the handles of a journal; a release follows its registration;
* `Registry.Account` — what every step keeps;
* **`ledger_after`**: the ledger of every run from the start balances.
-/

namespace ModuleHost

/-! ## Runtimes with fresh handles -/

namespace ControlRuntime

/-- A runtime can be in the state after it gave out the handles `hs` and was told to release the
handles `gone`, each in order. -/
inductive Reaches (R : ControlRuntime) : R.State → (hs gone : List Handle) → Prop where
  | compiled {control : Bytes} {s : R.State} (compiled : R.compile control = .ok s) :
      Reaches R s [] []
  | registered {s : R.State} {hs gone : List Handle} {d : ServiceDescriptor} {sink : Sink}
      {h : Handle} (reaches : Reaches R s hs gone)
      (accepted : (R.register s d sink).result = some (.ok h)) :
      Reaches R (R.register s d sink).state (hs ++ [h]) gone
  | refused {s : R.State} {hs gone : List Handle} {d : ServiceDescriptor} {sink : Sink}
      (reaches : Reaches R s hs gone) (refused : ∀ h, (R.register s d sink).result ≠ some (.ok h)) :
      Reaches R (R.register s d sink).state hs gone
  | invoked {s : R.State} {hs gone : List Handle} (h : Handle) (module function arguments : String)
      (parameters : CallParameters) (reaches : Reaches R s hs gone) :
      Reaches R (R.invoke s h module function arguments parameters).state hs gone
  | released {s : R.State} {hs gone : List Handle} (h : Handle) (reaches : Reaches R s hs gone) :
      Reaches R (R.release s h) hs (gone ++ [h])

/-- A registration gives a handle that no registration gave before it. -/
def IssuesFresh (R : ControlRuntime) : Prop :=
  ∀ s hs gone d sink h, R.Reaches s hs gone → (R.register s d sink).result = some (.ok h) → h ∉ hs

theorem issuesFresh_of_next {R : ControlRuntime} (next : R.State → Nat)
    (register : ∀ s d sink h, (R.register s d sink).result = some (.ok h) →
      next s ≤ h.number ∧ h.number < next (R.register s d sink).state)
    (refuse : ∀ s d sink, (∀ h, (R.register s d sink).result ≠ some (.ok h)) →
      next s ≤ next (R.register s d sink).state)
    (invoke : ∀ s h module function arguments parameters,
      next s ≤ next (R.invoke s h module function arguments parameters).state)
    (release : ∀ s h, next s ≤ next (R.release s h)) : R.IssuesFresh := by
  have bounded : ∀ {s hs gone}, R.Reaches s hs gone → ∀ h ∈ hs, h.number < next s := by
    intro s hs gone hr
    induction hr with
    | compiled => simp
    | registered _ accepted ih =>
      intro h hh
      have hc := register _ _ _ _ accepted
      rcases List.mem_append.1 hh with hh | hh
      · have := ih h hh
        omega
      · obtain rfl := List.mem_singleton.1 hh
        exact hc.2
    | refused _ refused ih =>
      exact fun h hh => Nat.lt_of_lt_of_le (ih h hh) (refuse _ _ _ refused)
    | invoked h' module function arguments parameters _ ih =>
      exact fun h hh =>
        Nat.lt_of_lt_of_le (ih h hh) (invoke _ h' module function arguments parameters)
    | released h' _ ih => exact fun h hh => Nat.lt_of_lt_of_le (ih h hh) (release _ h')
  intro s hs gone d sink h hr accepted hh
  have := bounded hr h hh
  have := (register _ _ _ _ accepted).1
  omega

end ControlRuntime

/-- The engine numbers its services upwards. -/
theorem Engine.issuesFresh (regime : Wasm.Regime) : (Engine.controlRuntime regime).IssuesFresh := by
  refine ControlRuntime.issuesFresh_of_next Engine.nextHandle ?_ ?_ ?_ fun _ _ => Nat.le_refl _
  · intro e d sink h hr
    simp only [Engine.controlRuntime, Engine.register] at hr ⊢
    split at hr
    · cases hr
    · cases hr
    · cases hr
      simp [Effect.returned, Engine.add]
  · intro e d sink hr
    simp only [Engine.controlRuntime, Engine.register]
    split
    · exact Nat.le_refl _
    · exact Nat.le_refl _
    · exact Nat.le_succ _
  · intro e h module function arguments parameters
    simp only [Engine.controlRuntime, Engine.invoke]
    split
    · exact Nat.le_refl _
    · exact Nat.le_refl _

theorem ScriptedRuntime.issuesFresh (script : Script) :
    (ScriptedRuntime.control script).IssuesFresh := by
  refine ControlRuntime.issuesFresh_of_next (fun s : ScriptedRuntime => s.issued + 1) ?_ ?_ ?_
    fun _ _ => Nat.le_refl _
  · intro s d sink h hr
    simp only [ScriptedRuntime.control, ScriptedRuntime.register] at hr ⊢
    split at hr
    · cases hr
    · cases hr
      simp [Effect.returned]
  · intro s d sink hr
    simp only [ScriptedRuntime.control, ScriptedRuntime.register]
    split
    · exact Nat.le_refl _
    · exact Nat.le_succ _
  · intro s h module function arguments parameters
    simp only [ScriptedRuntime.control, ScriptedRuntime.invoke]
    have finish : ∀ records ending,
        (s.finish module records ending).state.issued = s.issued := by
      intro records ending
      cases ending <;> rfl
    split
    · exact Nat.le_of_eq (by rw [finish])
    · split
      · exact Nat.le_refl _
      · exact Nat.le_of_eq (by rw [finish])

/-! ## Journals -/

/-- The handles that a journal registers, in order. -/
def issued (t : List Traffic) : List Handle :=
  t.filterMap fun
    | .registered h _ => some h
    | _ => none

/-- The handles that a journal releases, in order. -/
def released (t : List Traffic) : List Handle :=
  t.filterMap fun
    | .released h => some h
    | _ => none

/-- Every release follows the registration of its handle and no other release of it. -/
def Orderly (t : List Traffic) : Prop :=
  ∀ p h q, t = p ++ .released h :: q → h ∈ issued p ∧ h ∉ released p

@[simp]
theorem issued_append (t t' : List Traffic) : issued (t ++ t') = issued t ++ issued t' :=
  List.filterMap_append

@[simp]
theorem released_append (t t' : List Traffic) : released (t ++ t') = released t ++ released t' :=
  List.filterMap_append

@[simp]
theorem issued_cons_registered (h : Handle) (d : ServiceDescriptor) (t : List Traffic) :
    issued (.registered h d :: t) = h :: issued t := rfl

@[simp]
theorem released_cons_registered (h : Handle) (d : ServiceDescriptor) (t : List Traffic) :
    released (.registered h d :: t) = released t := rfl

@[simp]
theorem issued_nil : issued [] = [] := rfl

@[simp]
theorem released_nil : released [] = [] := rfl

@[simp]
theorem issued_map_released (hs : List Handle) : issued (hs.map .released) = [] := by
  simp [issued]

@[simp]
theorem released_map_released (hs : List Handle) : released (hs.map .released) = hs := by
  induction hs with
  | nil => rfl
  | cons h hs ih => exact congrArg (h :: ·) ih

theorem orderly_nil : Orderly [] := by
  intro p h q e
  simp at e

theorem Orderly.append {t t' : List Traffic} (ht : Orderly t)
    (ht' : ∀ p h q, t' = p ++ .released h :: q → h ∈ issued (t ++ p) ∧ h ∉ released (t ++ p)) :
    Orderly (t ++ t') := by
  intro p h q e
  rcases List.append_eq_append_iff.1 e with ⟨p', rfl, e'⟩ | ⟨q', rfl, e'⟩
  · exact ht' p' h q e'
  · cases q' with
    | nil => simpa using ht' [] h q e'.symm
    | cons x q' =>
      simp only [List.cons_append, List.cons.injEq] at e'
      obtain ⟨rfl, -⟩ := e'
      exact ht p h q' rfl

/-- Handles that are live and told apart may be released one after another. -/
theorem Orderly.append_releases {t : List Traffic} (ht : Orderly t) {hs : List Handle}
    (nodup : hs.Nodup) (live : ∀ h ∈ hs, h ∈ issued t ∧ h ∉ released t) :
    Orderly (t ++ hs.map .released) := by
  refine ht.append fun p h q e => ?_
  obtain ⟨hs₁, hs₂, rfl, rfl, e'⟩ := List.map_eq_append_iff.1 e
  obtain ⟨_, _, rfl, e', -⟩ := List.map_eq_cons_iff.1 e'
  cases e'
  have hl := live h (by simp)
  have hn : h ∉ hs₁ := fun hh => (List.nodup_append.1 nodup).2.2 h hh h (by simp) rfl
  simp [hl, hn]

theorem Orderly.mem_issued {t : List Traffic} (ht : Orderly t) {h : Handle} (hh : h ∈ released t) :
    h ∈ issued t := by
  obtain ⟨x, hx, e⟩ := List.mem_filterMap.1 hh
  obtain ⟨p, q, rfl⟩ := List.append_of_mem hx
  cases x with
  | released h' =>
    cases e
    have := (ht p h q rfl).1
    simp [this]
  | compiled | registered | invoked => cases e

theorem Orderly.released_nodup {t : List Traffic} (ht : Orderly t) : (released t).Nodup := by
  induction t using List.reverseRecOn with
  | nil => exact List.nodup_nil
  | append_singleton t x ih =>
    have hi := ih fun p h q e => ht p h (q ++ [x]) (by simp [e])
    rw [released_append]
    cases x with
    | released h =>
      have hh := (ht t h [] rfl).2
      exact List.nodup_append.2 ⟨hi, by simp [released], by
        intro a ha b hb hab
        simp only [released, List.filterMap_cons, List.filterMap_nil, List.mem_singleton] at hb
        exact hh (hb ▸ hab ▸ ha)⟩
    | compiled | registered | invoked => simpa [released] using hi

namespace Registry

variable {R : ControlRuntime}

/-- The handle of a service. -/
def handleOf (r : Registry R) (id : String) : Option Handle := (r.services.get? id).map (·.handle)

theorem handleOf_insert {r r' : Registry R} {id facade : String} {h : Handle}
    (services : r'.services = r.services.insert id ⟨h, facade⟩) (id' : String) :
    r'.handleOf id' = if id' = id then some h else r.handleOf id' := by
  rw [handleOf, services, Dict.get?_insert]
  by_cases hid : id' = id
  · rw [if_pos hid, if_pos hid, Option.map_some]
  · rw [if_neg hid, if_neg hid, handleOf]

theorem mem_handles {r : Registry R} {h : Handle} :
    h ∈ r.services.values.map (·.handle) ↔ ∃ id, r.handleOf id = some h := by
  simp only [List.mem_map, Dict.mem_values, handleOf, Option.map_eq_some_iff]
  exact ⟨fun ⟨e, ⟨id, he⟩, hh⟩ => ⟨id, e, he, hh⟩, fun ⟨id, e, he, hh⟩ => ⟨e, ⟨id, he⟩, hh⟩⟩

theorem releases_eq {r : Registry R} (hc : r.Consistent) :
    r.releases = (r.services.values.map (·.handle)).map .released := by
  unfold releases
  cases hr : r.runtime with
  | none =>
    have hp : r.phase ≠ .initialized := fun hp => by simpa [hr] using hc.runtime_iff.2 hp
    rw [hc.services_empty hp]
    rfl
  | some s => rw [List.map_map]; rfl

/-! ## What steps keep -/

/-- The handles that a registry holds are those that its journal registered and did not release. -/
structure Account (r : Registry R) (t : List Traffic) : Prop where
  consistent : r.Consistent
  /-- The journal tells what the runtime was asked. -/
  reaches : ∀ s, r.runtime = some s → R.Reaches s (issued t) (released t)
  unused : r.phase = .uninitialized → issued t = []
  issued_nodup : (issued t).Nodup
  orderly : Orderly t
  live_iff : ∀ h, (h ∈ issued t ∧ h ∉ released t) ↔ ∃ id, r.handleOf id = some h
  one_id : ∀ id id' h, r.handleOf id = some h → r.handleOf id' = some h → id = id'

theorem account_uninitialized : (uninitialized : Registry R).Account [] where
  consistent := consistent_uninitialized
  reaches s hs := by cases hs
  unused _ := rfl
  issued_nodup := List.nodup_nil
  orderly := orderly_nil
  live_iff h := by simp [issued, handleOf, uninitialized]
  one_id id id' h hh := by simp [handleOf, uninitialized] at hh

namespace Account

variable {r : Registry R} {t : List Traffic}

theorem released_unused (ha : r.Account t) (hp : r.phase = .uninitialized) : released t = [] := by
  refine List.eq_nil_iff_forall_not_mem.2 fun h hh => ?_
  have hi := ha.orderly.mem_issued hh
  rw [ha.unused hp] at hi
  cases hi

theorem nodup_handles (ha : r.Account t) : (r.services.values.map (·.handle)).Nodup := by
  refine Dict.nodup_map_values fun id id' e e' he he' hh => ?_
  exact ha.one_id id id' e.handle (by simp [handleOf, he]) (by simp [handleOf, he', hh])

/-- Traffic that neither registers nor releases leaves the services alone. -/
theorem quiet (ha : r.Account t) {r' : Registry R} {t' : List Traffic} (hc : r'.Consistent)
    (hi : issued t' = []) (hr : released t' = []) (services : r'.services = r.services)
    (unused : r'.phase = .uninitialized → r.phase = .uninitialized)
    (reaches : ∀ s, r'.runtime = some s → R.Reaches s (issued t) (released t)) :
    r'.Account (t ++ t') := by
  have hh : r'.handleOf = r.handleOf := by
    funext id
    rw [handleOf, handleOf, services]
  have orderly : Orderly (t ++ t') := by
    refine ha.orderly.append fun p h q e => ?_
    have : h ∈ released t' := by simp [e, released]
    simp [hr] at this
  exact ⟨hc, by simpa [hi, hr] using reaches, fun hp => by simp [hi, ha.unused (unused hp)],
    by simpa [hi] using ha.issued_nodup, orderly, by simpa [hi, hr, hh] using ha.live_iff,
    by simpa [hh] using ha.one_id⟩

theorem orderly_enter (ha : r.Account t) (h : Handle) (d : ServiceDescriptor) :
    Orderly (t ++ .registered h d :: (r.handleOf d.serviceId).toList.map .released) := by
  have ht : Orderly (t ++ [.registered h d]) := by
    refine ha.orderly.append fun p x q e => ?_
    have : x ∈ released [.registered h d] := by simp [e, released]
    simp at this
  rw [← List.singleton_append, ← List.append_assoc]
  refine ht.append_releases ?_ fun x hx => ?_
  · cases r.handleOf d.serviceId <;> simp
  · have hl := (ha.live_iff x).2 ⟨_, Option.mem_toList.1 hx⟩
    simp [hl]

theorem live_enter (ha : r.Account t) {id : String} {h : Handle} (fresh : h ∉ issued t) (x : Handle) :
    (x ∈ issued t ++ [h] ∧ x ∉ released t ++ (r.handleOf id).toList) ↔
      ∃ id', (if id' = id then some h else r.handleOf id') = some x := by
  have hlive := ha.live_iff x
  by_cases hx : x = h
  · subst hx
    have hr : x ∉ released t := fun hr => fresh (ha.orderly.mem_issued hr)
    have hid : r.handleOf id ≠ some x := fun hid => fresh (hlive.2 ⟨id, hid⟩).1
    exact ⟨fun _ => ⟨id, if_pos rfl⟩, fun _ => by simp [hr, hid]⟩
  constructor
  · rintro ⟨hi, hr⟩
    simp only [List.mem_append, List.mem_singleton, hx, or_false] at hi
    simp only [List.mem_append, not_or, Option.mem_toList] at hr
    obtain ⟨id', hid'⟩ := hlive.1 ⟨hi, hr.1⟩
    have hne : id' ≠ id := fun he => hr.2 (he ▸ hid')
    exact ⟨id', by rw [if_neg hne, hid']⟩
  · rintro ⟨id', hid'⟩
    split at hid'
    · exact absurd (Option.some.inj hid').symm hx
    · next hne =>
      have hl := hlive.2 ⟨id', hid'⟩
      have hd : r.handleOf id ≠ some x := fun hd => hne (ha.one_id _ _ x hid' hd)
      simp [hl, hd]

/-- A new handle goes under an id and the one there is released. -/
theorem enter (ha : r.Account t) {r' : Registry R} {d : ServiceDescriptor} {h : Handle}
    {facade : String} (hc : r'.Consistent) (begun : r'.phase ≠ .uninitialized) (fresh : h ∉ issued t)
    (services : r'.services = r.services.insert d.serviceId ⟨h, facade⟩)
    (reaches : ∀ s, r'.runtime = some s →
      R.Reaches s (issued t ++ [h]) (released t ++ (r.handleOf d.serviceId).toList)) :
    r'.Account (t ++ .registered h d :: (r.handleOf d.serviceId).toList.map .released) := by
  have hh := handleOf_insert services
  have held : ∀ id, r.handleOf id ≠ some h := fun id hid =>
    fresh ((ha.live_iff h).2 ⟨id, hid⟩).1
  refine ⟨hc, by simpa using reaches, fun hp => absurd hp begun, ?_, ha.orderly_enter h d,
    fun x => ?_, fun id id' x hid hid' => ?_⟩
  · simp only [issued_append, issued_cons_registered, issued_map_released]
    refine List.nodup_append.2 ⟨ha.issued_nodup, by simp, fun a ha' b hb hab => ?_⟩
    exact fresh (List.mem_singleton.1 hb ▸ hab ▸ ha')
  · simp only [issued_append, issued_cons_registered, issued_map_released, released_append,
      released_cons_registered, released_map_released, hh]
    exact ha.live_enter fresh x
  · rw [hh] at hid hid'
    split at hid <;> split at hid'
    · next h1 h2 => rw [h1, h2]
    · exact absurd (hid'.trans hid.symm) (held id')
    · exact absurd (hid.trans hid'.symm) (held id)
    · exact ha.one_id id id' x hid hid'

/-- Every handle is released. -/
theorem close (ha : r.Account t) : ({ phase := .terminated } : Registry R).Account
    (t ++ r.releases) := by
  rw [releases_eq ha.consistent]
  have hlive : ∀ h ∈ r.services.values.map (·.handle), h ∈ issued t ∧ h ∉ released t := fun h hh =>
    (ha.live_iff h).2 (mem_handles.1 hh)
  refine ⟨⟨by simp, fun _ => rfl⟩, fun s hs => by simp at hs, fun hp => by simp at hp, ?_,
    ha.orderly.append_releases ha.nodup_handles hlive, fun h => ?_, fun id id' h hid => ?_⟩
  · simpa only [issued_append, issued_map_released, List.append_nil] using ha.issued_nodup
  · have hall := (ha.live_iff h).trans mem_handles.symm
    simp only [issued_append, released_append, issued_map_released, released_map_released]
    constructor
    · rintro ⟨hi, hr⟩
      simp only [List.append_nil, List.mem_append, not_or] at hi hr
      exact absurd (hall.1 ⟨hi, hr.1⟩) hr.2
    · rintro ⟨id, hid⟩
      cases hid
  · cases hid

end Account

theorem Step.account (fresh : R.IssuesFresh) {r r' : Registry R} {t t' : List Traffic}
    (hs : Step r r' t') (ha : r.Account t) : r'.Account (t ++ t') := by
  have hc := hs.consistent ha.consistent
  cases hs with
  | still => simpa using ha
  | notCompiled => exact ha.quiet hc rfl rfl rfl id ha.reaches
  | compiled phase compiled =>
    refine ha.quiet hc rfl rfl rfl (fun hp => by cases hp) fun s hs => ?_
    cases hs
    rw [ha.unused phase, ha.released_unused phase]
    exact .compiled compiled
  | notRegistered d sink phase runtime refused =>
    refine ha.quiet hc rfl rfl rfl id fun s hs => ?_
    cases hs
    exact .refused (ha.reaches _ runtime) refused
  | @registered s d sink facade h phase runtime facade_eq accepted absent =>
    have hr := ha.reaches _ runtime
    have hold : r.handleOf d.serviceId = none := by rw [handleOf, absent, Option.map_none]
    have hfresh := fresh _ _ _ _ _ _ hr accepted
    have := ha.enter hc (by simp [phase]) hfresh rfl fun s' hs' => by
      cases hs'
      rw [hold, Option.toList_none, List.append_nil]
      exact hr.registered accepted
    simpa [hold] using this
  | @replaced s d sink facade h old phase runtime facade_eq accepted present =>
    have hr := ha.reaches _ runtime
    have hold : r.handleOf d.serviceId = some old.handle := by
      rw [handleOf, present, Option.map_some]
    have hfresh := fresh _ _ _ _ _ _ hr accepted
    have := ha.enter hc (by simp [phase]) hfresh rfl fun s' hs' => by
      cases hs'
      rw [hold, Option.toList_some]
      exact .released _ (hr.registered accepted)
    simpa [hold] using this
  | invoked function arguments parameters phase runtime present =>
    refine ha.quiet hc rfl rfl rfl id fun s hs => ?_
    cases hs
    exact .invoked _ _ _ _ _ (ha.reaches _ runtime)
  | terminated => exact ha.close

/-- A step that does not end the registry releases a handle only for one registered in its place. -/
theorem Step.replaces {r r' : Registry R} {t : List Traffic} (hs : Step r r' t) {h : Handle}
    (hh : .released h ∈ t) (hp : r'.phase ≠ .terminated) :
    ∃ d h', t = [.registered h' d, .released h] ∧ r.handleOf d.serviceId = some h ∧
      r'.handleOf d.serviceId = some h' := by
  cases hs with
  | still | notRegistered => cases hh
  | notCompiled | compiled | registered | invoked => simp at hh
  | terminated => exact absurd rfl hp
  | @replaced s d sink facade h' old phase runtime facade_eq accepted present =>
    obtain rfl : h = old.handle := by simpa using hh
    exact ⟨d, h', rfl, by simp [handleOf, present], by simp [handleOf, Dict.get?_insert]⟩

/-! ## The ledger -/

/-- The books of a registry after the journal `t` balance. -/
structure Ledger (r : Registry R) (t : List Traffic) : Prop where
  /-- The runtime gave out and was told to release what the journal tells. -/
  reaches : ∀ s, r.runtime = some s → R.Reaches s (issued t) (released t)
  issued_nodup : (issued t).Nodup
  /-- No handle is released twice. -/
  released_nodup : (released t).Nodup
  /-- A handle is released after it was registered. -/
  orderly : Orderly t
  /-- The handles given out and not released are those of the services. -/
  live_iff : ∀ h, (h ∈ issued t ∧ h ∉ released t) ↔ ∃ id, r.handleOf id = some h
  one_id : ∀ id id' h, r.handleOf id = some h → r.handleOf id' = some h → id = id'
  /-- The handle of a service is released when another is registered in its place. -/
  replaces : ∀ a id h, r.handleOf id = some h → .released h ∈ (r.perform a).activity.traffic →
    (r.perform a).registry.phase ≠ .terminated →
    ∃ d h', d.serviceId = id ∧ (r.perform a).activity.traffic = [.registered h' d, .released h] ∧
      (r.perform a).registry.handleOf id = some h'
  /-- In the end every handle given out is released. -/
  settled : r.phase = .terminated → (released t).Perm (issued t)

theorem Account.ledger {r : Registry R} {t : List Traffic} (ha : r.Account t) : r.Ledger t where
  reaches := ha.reaches
  issued_nodup := ha.issued_nodup
  released_nodup := ha.orderly.released_nodup
  orderly := ha.orderly
  live_iff := ha.live_iff
  one_id := ha.one_id
  replaces a id h hid hh hp := by
    obtain ⟨d, h', ht, hd, hd'⟩ := (step_perform r a).replaces hh hp
    obtain rfl := ha.one_id _ _ h hd hid
    exact ⟨d, h', rfl, ht, hd'⟩
  settled hp := by
    have hs : r.services = Dict.empty := ha.consistent.services_empty (by simp [hp])
    refine (List.perm_ext_iff_of_nodup ha.orderly.released_nodup ha.issued_nodup).2 fun h => ?_
    refine ⟨ha.orderly.mem_issued, fun hi => by_contra fun hr => ?_⟩
    obtain ⟨id, hid⟩ := (ha.live_iff h).1 ⟨hi, hr⟩
    simp [handleOf, hs] at hid

/-- **The ledger of every run balances**, over a runtime that gives out fresh handles. -/
theorem ledger_after (fresh : R.IssuesFresh) (as : List Action) :
    ((uninitialized : Registry R).after as).Ledger ((uninitialized : Registry R).journal as) := by
  have := run_induction (P := fun r t => r.Account t) (fun _ _ _ _ ha hs => hs.account fresh ha) as
    uninitialized [] account_uninitialized
  exact this.ledger

/-- A service is registered, replaced and refused a third time, and the registry is terminated. -/
def replacement : List Action :=
  let service (bytes : Bytes) : ServiceDescriptor := ⟨"a", [⟨"m", .owned bytes, {}⟩], none⟩
  [.init [], .operate (.create (service [0]) .total), .operate (.create (service [1]) .total),
    .operate (.create (service []) .total), .terminate]

theorem ledger_after_replacement :
    (ScriptedRuntime.control Dict.empty).IssuesFresh ∧
      let r : Registry (ScriptedRuntime.control Dict.empty) := uninitialized
      released (r.journal replacement) = [⟨1⟩, ⟨2⟩] ∧
        (r.after replacement).Ledger (r.journal replacement) := by
  have fresh := ScriptedRuntime.issuesFresh Dict.empty
  exact ⟨fresh, by decide +kernel, ledger_after fresh replacement⟩

end Registry

end ModuleHost
