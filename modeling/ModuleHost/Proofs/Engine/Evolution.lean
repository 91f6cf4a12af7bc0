import ModuleHost.Engine.Control
import ModuleHost.Proofs.Engine.Invariant

/-!
# How the store of a service evolves

Once the modules of a service are instantiated, calls change bytes, sizes and values in its store
and nothing else.

* `Extends`, `Evolves` — what is added to a store stays; what a call leaves as it was;
* `Evolves.guestInvariant`, `Evolves.invoke` — so do calls, whatever guests do;
* `Leads`, `Wired` — a name leads to an instance; the siblings that a store's functions call are
  there;
* `Traced`, `Answers` — a store evolves, and all exchanges on the way are good, all sibling calls
  reach an instance;
* **`Wired.traced`**, `Wired.invariant` — calls in a wired store make such exchanges;
* `Allocator.Of` — an allocator consists of what its instance exports;
* `Allocates` — an instance has a memory and an allocator; `Service.Sound` — the tables of a
  service agree and its instances can be called;
* **`Service.Sound.callModule`**: calls of a sound service answer and leave it sound.
-/

namespace ModuleHost

open Wasm (Store Run Instance Steady Lenient Regime Ended)

theorem hasType_iff {s : Store guests} {place : Nat} {type : Wasm.FuncType} :
    hasType s place type ↔ ∃ f, s.functions[place]? = some f ∧ f.type = type := by
  simp [hasType, Option.any_eq_true]

/-- The parts of `s` are in `s'`, where there may be more. -/
structure Extends (s s' : Store guests) : Prop where
  functions : s.functions <+: s'.functions
  instances : s.instances <+: s'.instances
  memories : ∀ (place : Nat) (m : Wasm.Memory), s.memories[place]? = some m →
    ∃ m', s'.memories[place]? = some m' ∧ m'.Follows m
  directory : s'.data.directory = s.data.directory

/-- The store `s'` is `s` after calls. -/
structure Evolves (s s' : Store guests) : Prop where
  functions : s'.functions = s.functions
  tables : s'.tables = s.tables
  instances : s'.instances = s.instances
  memory_count : s'.memories.length = s.memories.length
  memories : ∀ (place : Nat) (m : Wasm.Memory), s.memories[place]? = some m →
    ∃ m', s'.memories[place]? = some m' ∧ m'.Follows m
  serviceId : s'.data.serviceId = s.data.serviceId
  sink : s'.data.sink = s.data.sink
  loggers : s'.data.loggers = s.data.loggers
  directory : s'.data.directory = s.data.directory

namespace Extends

variable {s s' s'' : Store guests}

theorem trans (h : Extends s s') (h' : Extends s' s'') : Extends s s'' where
  functions := h.functions.trans h'.functions
  instances := h.instances.trans h'.instances
  memories place m hm := by
    obtain ⟨m', hm', follows⟩ := h.memories place m hm
    obtain ⟨m'', hm'', follows'⟩ := h'.memories place m' hm'
    exact ⟨m'', hm'', follows.trans follows'⟩
  directory := h'.directory.trans h.directory

theorem getElem?_instances (h : Extends s s') {place : Nat} {i : Instance}
    (hi : s.instances[place]? = some i) : s'.instances[place]? = some i := by
  obtain ⟨more, hmore⟩ := h.instances
  have hlt := (List.getElem?_eq_some_iff.1 hi).1
  rw [← hmore, List.getElem?_append_left hlt, hi]

theorem getElem?_functions (h : Extends s s') {place : Nat} {f : Wasm.FunctionInstance guests}
    (hf : s.functions[place]? = some f) : s'.functions[place]? = some f := by
  obtain ⟨more, hmore⟩ := h.functions
  have hlt := (List.getElem?_eq_some_iff.1 hf).1
  rw [← hmore, List.getElem?_append_left hlt, hf]

theorem keepsType (h : Extends s s') {place : Nat} {type : Wasm.FuncType}
    (ht : hasType s place type) : hasType s' place type := by
  obtain ⟨f, hf, hft⟩ := hasType_iff.1 ht
  exact hasType_iff.2 ⟨f, h.getElem?_functions hf, hft⟩

end Extends

namespace Evolves

variable {s s' : Store guests}

theorem refl (s : Store guests) : Evolves s s where
  functions := rfl
  tables := rfl
  instances := rfl
  memory_count := rfl
  memories _ m hm := ⟨m, hm, .refl m⟩
  serviceId := rfl
  sink := rfl
  loggers := rfl
  directory := rfl

theorem toExtends (h : Evolves s s') : Extends s s' where
  functions := h.functions ▸ List.prefix_rfl
  instances := h.instances ▸ List.prefix_rfl
  memories := h.memories
  directory := h.directory

/-- What was noted is set aside. -/
theorem settled (h : Evolves s s') : Evolves s (ModuleHost.settled s') := { h with }

theorem trans {s'' : Store guests} (h : Evolves s s') (h' : Evolves s' s'') : Evolves s s'' where
  functions := h'.functions.trans h.functions
  tables := h'.tables.trans h.tables
  instances := h'.instances.trans h.instances
  memory_count := h'.memory_count.trans h.memory_count
  memories := (h.toExtends.trans h'.toExtends).memories
  serviceId := h'.serviceId.trans h.serviceId
  sink := h'.sink.trans h.sink
  loggers := h'.loggers.trans h.loggers
  directory := h'.directory.trans h.directory

/-- A memory is changed as guest code may. -/
theorem setMemory (h : Evolves s s') {place : Nat} {m m' : Wasm.Memory}
    (hm : s'.memories[place]? = some m) (follows : m'.Follows m) :
    Evolves s { s' with memories := s'.memories.set place m' } := by
  refine { h with
    memory_count := (List.length_set ..).trans h.memory_count
    memories := fun place' m₀ hm₀ => ?_ }
  obtain ⟨m₁, hm₁, follows₁⟩ := h.memories place' m₀ hm₀
  by_cases heq : place = place'
  · subst heq
    obtain rfl : m₁ = m := Option.some.inj (hm₁.symm.trans hm)
    have hlt := (List.getElem?_eq_some_iff.1 hm).1
    exact ⟨m', List.getElem?_set_self hlt, follows₁.trans follows⟩
  · exact ⟨m₁, (List.getElem?_set_ne heq).trans hm₁, follows₁⟩

end Evolves

/-- **Whatever guests do, their store evolves.** -/
theorem Evolves.guestInvariant (s₀ : Store guests) :
    GuestInvariant (Evolves s₀) fun _ => True where
  steady := ⟨fun _ _ _ _ hs hm follows => hs.setMemory hm follows, fun _ _ _ _ hs _ => { hs with }⟩
  lenient := ⟨trivial, trivial, trivial⟩
  broken := trivial
  plain _ _ := trivial
  records _ _ hs := { hs with }
  free _ _ _ hs := { hs with }
  parameters _ _ _ hs' := { hs' with }
  sibling _ _ _ hs _ := { hs with }
  missing _ _ _ _ _ _ := trivial
  failed _ _ _ _ _ _ _ := trivial

theorem Evolves.invoke (regime : Regime) (stack : Nat) (caller : Option Nat) (place : Nat)
    (arguments : List Wasm.Word) (s : Store guests) :
    Evolves s (Wasm.invoke hostFunctions regime stack caller place arguments s).store := by
  have rules := (guestInvariant s).rules.confined
  exact (Wasm.keeps_invoke rules.lenient rules.inside rules.keep_hostFunctions regime stack caller
    place arguments trivial s (.refl s)).store

theorem Evolves.of_invoke {regime : Regime} {stack : Nat} {caller : Option Nat} {place : Nat}
    {arguments results : List Wasm.Word} {s s' : Store guests}
    (h : Wasm.invoke hostFunctions regime stack caller place arguments s = .value results s') :
    Evolves s s' := by
  have evolves := Evolves.invoke regime stack caller place arguments s
  rwa [h] at evolves

/-! ## Siblings -/

/-- A name leads to the instance at a place. -/
def Leads (s : Store guests) (module : String) (place : Nat) : Prop :=
  s.data.directory.get? module = some place ∧ ∃ i, s.instances[place]? = some i

/-- The siblings that functions of a store call are there. -/
def Wired (s : Store guests) : Prop :=
  ∀ module function, CallsSibling s module function → ∃ place, Leads s module place

theorem Leads.extend {s s' : Store guests} {module : String} {place : Nat}
    (h : Leads s module place) (hs : Extends s s') : Leads s' module place := by
  obtain ⟨hplace, i, hi⟩ := h
  exact ⟨by rw [hs.directory, hplace], i, hs.getElem?_instances hi⟩

theorem Wired.evolve {s s' : Store guests} (h : Wired s) (hs : Evolves s s') : Wired s' := by
  intro module function held
  rw [CallsSibling, hs.functions] at held
  obtain ⟨place, leads⟩ := h module function held
  exact ⟨place, leads.extend hs.toExtends⟩

/-- An exchange that has nothing to do with siblings. -/
def Exchange.Plain : Exchange → Prop
  | .sibling .. => False
  | .log .. | .parameters _ | .allocated .. | .freed .. => True

/-- The store `s'` is `s` after calls that made only good exchanges. -/
structure Traced (Good : Exchange → Prop) (s s' : Store guests) : Prop where
  evolves : Evolves s s'
  exchanges : ∃ added, s'.data.exchanges = s.data.exchanges ++ added ∧ ∀ x ∈ added, Good x

/-- No guest code stops because a sibling is missing. -/
def NeverMissing (why : GuestStop) : Prop := ∀ module, why ≠ .raised (.notInstantiated module)

namespace Traced

variable {Good : Exchange → Prop} {s s' : Store guests}

theorem refl (s : Store guests) : Traced Good s s := ⟨.refl s, [], by simp⟩

/-- A good exchange is noted. -/
theorem note (h : Traced Good s s') {x : Exchange} (hx : Good x) : Traced Good s (noted x s') := by
  obtain ⟨added, hadded, good⟩ := h.exchanges
  refine ⟨{ h.evolves with }, added ++ [x], ?_, fun y hy => ?_⟩
  · rw [noted, hadded, List.append_assoc]
  · rcases List.mem_append.1 hy with hy | hy
    · exact good y hy
    · rwa [List.mem_singleton.1 hy]

end Traced

/-- **Calls in a wired store make good exchanges**, and none stops because a sibling is missing, if
the sibling calls are good that functions of the store make. -/
theorem Wired.traced {s₀ : Store guests} (wired : Wired s₀) {Good : Exchange → Prop}
    (plain : ∀ x : Exchange, x.Plain → Good x)
    (called : ∀ module function, CallsSibling s₀ module function →
      Good (.sibling module function (s₀.data.directory.get? module))) :
    GuestInvariant (Traced Good s₀) NeverMissing := by
  have held₀ {s : Store guests} (hs : Traced Good s₀ s) {module function : String}
      (held : CallsSibling s module function) : CallsSibling s₀ module function := by
    rwa [CallsSibling, hs.evolves.functions] at held
  refine {
    steady := ?steady
    lenient := ?lenient
    broken := fun module h => nomatch h
    plain := ?plain
    records := fun s r hs => ⟨{ hs.evolves with }, hs.exchanges⟩
    free := ?free
    parameters := fun s s' hs hs' => hs'.note (plain _ trivial)
    sibling := ?sibling
    missing := ?missing
    failed := fun s module function cause hs held fails name h => nomatch h }
  case steady =>
    refine ⟨fun s place m m' hs hm follows => ?_, fun s place g w hs hg => ?_⟩
    · exact ⟨hs.evolves.setMemory hm follows, hs.exchanges⟩
    · exact ⟨{ hs.evolves with }, hs.exchanges⟩
  case lenient => constructor <;> exact fun module h => nomatch h
  case free =>
    intro s x free hs
    refine hs.note (plain x ?_)
    cases x with
    | sibling => exact free.elim
    | log | parameters | allocated | freed => trivial
  case sibling =>
    intro s module function hs held
    rw [hs.evolves.directory]
    exact hs.note (called module function (held₀ hs held))
  case plain =>
    intro fault plain module h
    cases h
    exact plain
  case missing =>
    -- the sibling is there
    intro s module function hs held none
    obtain ⟨place, hplace, i, hi⟩ := wired module function (held₀ hs held)
    rw [hs.evolves.directory, hplace, Option.bind_some, hs.evolves.instances, hi] at none
    cases none

/-- A sibling call reaches an instance of a store. -/
def Exchange.Reaches (s : Store guests) : Exchange → Prop
  | .sibling module _ target => ∃ place, target = some place ∧ Leads s module place
  | _ => True

/-- The store `s'` is `s` after calls whose sibling calls all reached an instance. -/
structure Answers (s s' : Store guests) : Prop where
  evolves : Evolves s s'
  exchanges : ∃ added, s'.data.exchanges = s.data.exchanges ++ added ∧ ∀ x ∈ added, x.Reaches s

theorem answers_iff {s s' : Store guests} :
    Answers s s' ↔ Traced (Exchange.Reaches s) s s' :=
  ⟨fun h => ⟨h.evolves, h.exchanges⟩, fun h => ⟨h.evolves, h.exchanges⟩⟩

theorem Answers.refl (s : Store guests) : Answers s s := answers_iff.2 (.refl s)

/-- **Calls in a wired store answer**, and none stops because a sibling is missing. -/
theorem Wired.invariant {s₀ : Store guests} (wired : Wired s₀) :
    GuestInvariant (Answers s₀) NeverMissing := by
  have hanswers : Answers s₀ = Traced (Exchange.Reaches s₀) s₀ :=
    funext fun s => propext answers_iff
  rw [hanswers]
  refine wired.traced (fun x hx => ?_) fun module function held => ?_
  · cases x with
    | sibling => exact hx.elim
    | log | parameters | allocated | freed => trivial
  · obtain ⟨place, hplace⟩ := wired module function held
    exact ⟨place, hplace.1, hplace⟩

/-! ## Services -/

/-- An allocator consists of what its instance exports. -/
structure Allocator.Of (a : Allocator) (s : Store guests) (i : Instance) : Prop where
  memory : exportedMemory? s i = some a.memory
  allocate : exportedFunction? i allocateName = some a.allocate
  deallocate : a.deallocate = deallocate? s i

theorem Allocator.of_ofInstance {s : Store guests} {i : Instance} {a : Allocator}
    (h : ofInstance s i = .ok a) : a.Of s i := by
  unfold ofInstance at h
  split at h
  · cases h
  · next hmemory =>
    split at h
    · cases h
    · next hallocate =>
      cases h
      exact ⟨hmemory, (Option.filter_eq_some_iff.1 hallocate).1, rfl⟩

theorem Allocator.of_ofCaller {s : Store guests} {i : Instance} {a : Allocator}
    (h : ofCaller s i = .ok a) : a.Of s i := by
  unfold ofCaller at h
  split at h
  · cases h
  · next hmemory =>
    split at h
    · cases h
    · next hallocate =>
      split at h
      · cases h
        exact ⟨hmemory, hallocate, rfl⟩
      · cases h

theorem Allocator.exists_of_ofCaller {s₀ s : Store guests} (evolves : Evolves s₀ s)
    {caller : Option Nat} {a : Allocator}
    (h : ofCaller s ((caller.bind (s.instances[·]?)).getD {}) = .ok a) :
    ∃ i inst, caller = some i ∧ s₀.instances[i]? = some inst ∧ a.Of s inst := by
  cases caller with
  | none => cases h
  | some i =>
    rw [Option.bind_some, evolves.instances] at h
    cases hinst : s₀.instances[i]? with
    | none =>
      rw [hinst] at h
      cases h
    | some inst =>
      rw [hinst, Option.getD_some] at h
      exact ⟨i, inst, rfl, hinst, of_ofCaller h⟩

/-- An instance exports a memory that is not shared and an allocator. -/
structure Allocates (s : Store guests) (i : Instance) : Prop where
  memory : ∃ place m, i.export? memoryName = some (.memory place) ∧
    s.memories[place]? = some m ∧ m.shared = false
  allocate : ∃ place, i.export? allocateName = some (.func place) ∧
    hasType s place (wordFunction 1 1)

namespace Allocates

variable {s s' : Store guests} {i : Instance}

theorem extend (h : Allocates s i) (hs : Extends s s') : Allocates s' i := by
  obtain ⟨place, m, hexport, hm, hshared⟩ := h.memory
  obtain ⟨place', hallocate, htype⟩ := h.allocate
  obtain ⟨m', hm', follows⟩ := hs.memories place m hm
  exact ⟨⟨place, m', hexport, hm', follows.shared.trans hshared⟩, place', hallocate,
    hs.keepsType htype⟩

theorem of_exportedMemory? {place : Nat} (h : exportedMemory? s i = some place) :
    i.export? memoryName = some (.memory place) ∧
      ∀ m, s.memories[place]? = some m → m.shared = false := by
  unfold exportedMemory? at h
  split at h
  · next place' hexport =>
    split at h
    · cases h
    · next hshared =>
      cases h
      refine ⟨hexport, fun m hm => ?_⟩
      rw [hm] at hshared
      simpa using hshared
  · cases h

theorem of_exportedFunction? {name : String} {place : Nat}
    (h : exportedFunction? i name = some place) : i.export? name = some (.func place) := by
  unfold exportedFunction? at h
  split at h
  · next hexport =>
    cases h
    exact hexport
  · cases h

/-- An instance with an allocator can be called if its memory is there. -/
theorem of_ofInstance {a : Allocator} (h : Allocator.ofInstance s i = .ok a)
    (there : ∀ place, i.export? memoryName = some (.memory place) → place < s.memories.length) :
    Allocates s i := by
  unfold Allocator.ofInstance at h
  split at h
  · cases h
  · next memory hmemory =>
    obtain ⟨hexport, hshared⟩ := of_exportedMemory? hmemory
    have hm := List.getElem?_eq_getElem (there memory hexport)
    split at h
    · cases h
    · next function hfunction =>
      obtain ⟨hfunction, htype⟩ := Option.filter_eq_some_iff.1 hfunction
      exact ⟨⟨memory, _, hexport, hm, hshared _ hm⟩, function, of_exportedFunction? hfunction,
        htype⟩

/-- An instance that can be called has an allocator. -/
theorem ofInstance (h : Allocates s i) : ∃ a, Allocator.ofInstance s i = .ok a := by
  obtain ⟨place, m, hexport, hm, hshared⟩ := h.memory
  obtain ⟨place', hallocate, htype⟩ := h.allocate
  refine ⟨⟨place, place', Allocator.deallocate? s i⟩, ?_⟩
  simp [Allocator.ofInstance, exportedMemory?, exportedFunction?, hexport, hm, hshared, hallocate,
    Option.filter, htype]

end Allocates

/-- The tables of a service agree, and its instances can be called. -/
structure Service.Sound (service : Service) : Prop where
  /-- Sibling calls and callers reach the same instances under the same names. -/
  directory : ∀ name,
    service.store.data.directory.get? name = (service.modules.get? name).map (·.place)
  instances : ∀ name m, service.modules.get? name = some m →
    ∃ i, service.store.instances[m.place]? = some i ∧ Allocates service.store i
  wired : Wired service.store

/-- Calls of a module keep a property that parameters have nothing to do with. -/
theorem GuestRules.keeps_callModule {May : Wasm.Calls} {P : Store guests → Prop}
    {Q : GuestStop → Prop} (rules : GuestRules May P Q)
    (place : ∀ p, Run.Keeps P Q (setParameters p)) (regime : Regime) (m : RegisteredModule)
    (function arguments : String) (parameters : CallParameters) :
    Run.Keeps P Q (Service.callModule regime m function arguments parameters) := by
  refine .of_store fun s hs => (place parameters).bind (fun _ => ?_) s hs
  refine (rules.keeps_callExport regime _ _ _).bind fun _ => ?_
  exact (place {}).bind fun _ => .of_pure _

namespace Service.Sound

variable {service : Service} {s : Store guests}

/-- A store with more parts agrees with the same modules. -/
theorem extend (h : service.Sound) (hs : Extends service.store s) (wired : Wired s) :
    Service.Sound ⟨s, service.modules⟩ where
  directory name := by rw [hs.directory, h.directory]
  instances name m hm := by
    obtain ⟨i, hi, allocates⟩ := h.instances name m hm
    exact ⟨i, hs.getElem?_instances hi, allocates.extend hs⟩
  wired := wired

theorem evolve (h : service.Sound) (hs : Evolves service.store s) :
    Service.Sound ⟨s, service.modules⟩ :=
  h.extend hs.toExtends (h.wired.evolve hs)

/-- The store is put back after an operation. -/
theorem put (h : service.Sound) (hs : Evolves service.store s) : (service.put s).Sound :=
  h.evolve hs.settled

/-- **Calls of a sound service answer**, and none stops because a sibling is missing. -/
theorem callModule (h : service.Sound) (regime : Regime) (m : RegisteredModule)
    (function arguments : String) (parameters : CallParameters) :
    (callModule regime m function arguments parameters service.store).Within
      (Answers service.store) NeverMissing := by
  exact h.wired.invariant.rules.keeps_callModule
    (fun p s hs => ⟨{ hs.evolves with }, hs.exchanges⟩) regime m function arguments parameters
    service.store (.refl _)

/-- Invocations leave a service sound. -/
theorem invoke (h : service.Sound) (regime : Regime)
    (module function arguments : String) (parameters : CallParameters) :
    (service.invoke regime module function arguments parameters).state.Sound ∧
      (service.invoke regime module function arguments parameters).state.modules =
        service.modules := by
  unfold Service.invoke
  cases service.prepare module function arguments with
  | error cause => exact ⟨h, rfl⟩
  | ok prepared =>
    obtain ⟨m, ordered⟩ := prepared
    have hcall := h.callModule regime m function ordered parameters
    cases hc : ModuleHost.Service.callModule regime m function ordered parameters service.store with
    | stop why s =>
      rw [hc] at hcall
      simp only [hc]
      exact ⟨h.put hcall.1.evolves, rfl⟩
    | value called s =>
      rw [hc] at hcall
      simp only [hc]
      split <;> exact ⟨h.put hcall.evolves, rfl⟩

end Service.Sound

end ModuleHost
