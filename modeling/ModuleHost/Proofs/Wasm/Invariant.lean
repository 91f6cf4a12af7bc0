import ModuleHost.Wasm.Instantiation

/-!
# What running guest code keeps

Guest code changes the bytes and the sizes of memories and the values of globals. Everything else
in a store changes only where the embedder's functions change it.

* `Ended.Within`, `Run.Keeps` — a computation leaves a store with a property, and stops only for a
  reason that is allowed;
* `Steady`, `SteadyIn`, `Lenient` — what a property of stores and the allowed reasons have to admit
  of all guest code, of that of one instance;
* `Store.Reaches` — code of an instance can call a function: one of its instance, or one in a table;
* `Calls`, `Calls.Guest`, `Calls.Inside` — which calls are made; guest code calls the functions that
  it reaches, and changes what its instance has;
* `HostFunctions.Keep` — the embedder's functions keep a property;
* `Calls.Entered`, `Calls.Crossed`, `keeps_invoke_of` — a property of calls is kept where they enter
  guest code and where they cross to the embedder;
* **`keeps_invoke`**: what code may change and the embedder keeps, every call keeps;
* `within_instantiate` — and so does the code that runs when a module is instantiated.
-/

namespace ModuleHost.Wasm

variable {E : Embedding} {α β : Type} {P : Store E → Prop} {Q : Stop E → Prop}

/-- The end of a computation has `P`, and a stop has `Q`. -/
def Ended.Within (P : Store E → Prop) (Q : Stop E → Prop) : Ended E α → Prop
  | .value _ s => P s
  | .stop why s => P s ∧ Q why

theorem Ended.Within.store {e : Ended E α} (h : e.Within P Q) : P e.store := by
  cases e with
  | value a s => exact h
  | stop why s => exact h.1

theorem Ended.Within.of_store {e : Ended E α} (h : P e.store) : e.Within P fun _ => True := by
  cases e with
  | value a s => exact h
  | stop why s => exact ⟨h, trivial⟩

/-- From a store with `P` a computation comes to one with `P`, and stops only with `Q`. -/
def Run.Keeps (P : Store E → Prop) (Q : Stop E → Prop) (x : Run E α) : Prop :=
  ∀ s, P s → (x s).Within P Q

theorem Run.bind_apply (x : Run E α) (f : α → Run E β) (s : Store E) :
    (x >>= f) s = match x s with
      | .value a s => f a s
      | .stop why s => .stop why s := rfl

theorem Run.bind_of_value {x : Run E α} {a : α} {s s' : Store E} (h : x s = .value a s')
    (f : α → Run E β) : (x >>= f) s = f a s' := by
  rw [Run.bind_apply, h]

theorem Run.bind_of_stop {x : Run E α} {why : Stop E} {s s' : Store E} (h : x s = .stop why s')
    (f : α → Run E β) : (x >>= f) s = .stop why s' := by
  rw [Run.bind_apply, h]

theorem Run.bind_congr {x y : Run E α} {s : Store E} (h : x s = y s) (f : α → Run E β) :
    (x >>= f) s = (y >>= f) s := by
  rw [Run.bind_apply, Run.bind_apply, h]

theorem Run.bind_assoc {γ : Type} (x : Run E α) (f : α → Run E β) (g : β → Run E γ) :
    x >>= f >>= g = x >>= fun a => f a >>= g := by
  funext s
  rw [Run.bind_apply, Run.bind_apply, Run.bind_apply]
  cases x s <;> rfl

theorem Run.orTrap_some (a : α) (s : Store E) :
    (Run.orTrap (some a) : Run E α) s = .value a s := rfl

theorem Run.store_bind (f : Store E → Run E α) (s : Store E) : (Run.store >>= f) s = f s s := rfl

theorem Run.bind_eq_value {x : Run E α} {f : α → Run E β} {s s' : Store E} {b : β} :
    (x >>= f) s = .value b s' ↔ ∃ a s₁, x s = .value a s₁ ∧ f a s₁ = .value b s' := by
  rw [Run.bind_apply]
  cases x s with
  | value a s₁ => exact ⟨fun h => ⟨a, s₁, rfl, h⟩, fun ⟨_, _, hx, h⟩ => by cases hx; exact h⟩
  | stop why s₁ => exact ⟨(nomatch ·), fun ⟨_, _, hx, _⟩ => nomatch hx⟩

theorem Run.bind_eq_stop {x : Run E α} {f : α → Run E β} {s s' : Store E} {why : Stop E} :
    (x >>= f) s = .stop why s' ↔
      x s = .stop why s' ∨ ∃ a s₁, x s = .value a s₁ ∧ f a s₁ = .stop why s' := by
  rw [Run.bind_apply]
  cases x s with
  | value a s₁ =>
    constructor
    · exact fun h => .inr ⟨a, s₁, rfl, h⟩
    · rintro (h | ⟨_, _, hx, h⟩)
      · cases h
      · cases hx
        exact h
  | stop why' s₁ =>
    constructor
    · exact fun h => .inl (by cases h; rfl)
    · rintro (h | ⟨_, _, hx, _⟩)
      · cases h
        rfl
      · cases hx

/-- An end with the property may be followed by what keeps it. -/
theorem Ended.Within.bind {x : Run E α} {f : α → Run E β} {s : Store E} (h : (x s).Within P Q)
    (hf : ∀ a, (f a).Keeps P Q) : ((x >>= f) s).Within P Q := by
  rw [Run.bind_apply]
  cases hxs : x s with
  | value a s' =>
    rw [hxs] at h
    exact hf a s' h
  | stop why s' =>
    rw [hxs] at h
    exact h

namespace Run.Keeps

theorem of_pure (a : α) : Keeps P Q (pure a : Run E α) := fun _ hs => hs

theorem of_stop {why : Stop E} (h : Q why) : Keeps P Q (stop why : Run E α) :=
  fun _ hs => ⟨hs, h⟩

theorem of_orStop {why : Stop E} (h : Q why) : (a : Option α) → Keeps P Q (orStop why a)
  | some a => of_pure a
  | none => of_stop h

theorem bind {x : Run E α} {f : α → Run E β} (hx : Keeps P Q x) (hf : ∀ a, Keeps P Q (f a)) :
    Keeps P Q (x >>= f) :=
  fun s hs => (hx s hs).bind hf

theorem of_store {f : Store E → Run E α} (h : ∀ s, P s → (f s s).Within P Q) :
    Keeps P Q (store >>= f) := h

theorem mapStop {x : Run E α} (hx : Keeps P Q x) {f : Stop E → Stop E}
    (hf : ∀ why, Q why → Q (f why)) : Keeps P Q (x.mapStop f) := by
  intro s hs
  have h := hx s hs
  unfold Run.mapStop
  cases hxs : x s with
  | value a s' =>
    rw [hxs] at h
    exact h
  | stop why s' =>
    rw [hxs] at h
    exact ⟨h.1, hf why h.2⟩

theorem attempt {x : Run E α} (hx : Keeps P Q x) : Keeps P Q x.attempt := by
  intro s hs
  have h := hx s hs
  unfold Run.attempt
  cases hxs : x s with
  | value a s' =>
    rw [hxs] at h
    exact h
  | stop why s' =>
    rw [hxs] at h
    cases why with
    | broken => exact h
    | endless => exact h
    | trap => exact h.1
    | memoryFault => exact h.1
    | raised fault => exact h.1

end Run.Keeps

/-! ## What guest code changes -/

/-- A memory as guest code may leave it: its bytes are others and it may have more pages. -/
structure Memory.Follows (new old : Memory) : Prop where
  shared : new.shared = old.shared
  max : new.max = old.max
  pages : old.pages ≤ new.pages

theorem Memory.Follows.refl (m : Memory) : m.Follows m := ⟨rfl, rfl, Nat.le_refl _⟩

theorem Memory.Follows.trans {a b c : Memory} (h : b.Follows a) (h' : c.Follows b) :
    c.Follows a :=
  ⟨h'.shared.trans h.shared, h'.max.trans h.max, Nat.le_trans h.pages h'.pages⟩

/-- Guest code may change bytes and sizes of memories, and values of globals. -/
structure Steady (P : Store E → Prop) : Prop where
  memory : ∀ s place m m', P s → s.memories[place]? = some m → m'.Follows m →
    P { s with memories := s.memories.set place m' }
  global : ∀ s place g w, P s → s.globals[place]? = some g →
    P { s with globals := s.globals.set place { g with value := w } }

/-- The memory at a place may be changed. -/
def Writable (P : Store E → Prop) (place : Nat) : Prop :=
  ∀ s m m', P s → s.memories[place]? = some m → m'.Follows m →
    P { s with memories := s.memories.set place m' }

/-- Guest code of an instance may change the memories and the globals that the instance has. -/
structure SteadyIn (home : Instance) (P : Store E → Prop) : Prop where
  memory : ∀ place ∈ home.memories, Writable P place
  global : ∀ place ∈ home.globals, ∀ s g w, P s → s.globals[place]? = some g →
    P { s with globals := s.globals.set place { g with value := w } }

theorem Steady.within (steady : Steady P) (home : Instance) : SteadyIn home P where
  memory place _ s := steady.memory s place
  global place _ s := steady.global s place

/-- A stop that is an error of the code that runs: the embedder has not broken down, and the code
has come to an end. -/
def Stop.Traps : Stop E → Prop
  | .trap | .memoryFault | .raised _ => True
  | .broken | .endless => False

/-- Guest code may stop for its own reasons. -/
structure Lenient (Q : Stop E → Prop) : Prop where
  trap : Q .trap
  memoryFault : Q .memoryFault
  endless : Q .endless

theorem Lenient.leaving (lenient : Lenient Q) (traced : Bool) {why : Stop E} (h : Q why) :
    Q (why.leaving traced) := by
  cases why with
  | memoryFault | raised =>
    rw [Stop.leaving]
    split
    · exact lenient.trap
    · exact h
  | trap | broken | endless => exact h

namespace Memory

theorem overwrite_eq (m : Memory) (start : Nat) (bytes : Bytes) :
    ∃ cells, m.overwrite start bytes = { m with cells := cells } := by
  induction bytes generalizing m start with
  | nil => exact ⟨m.cells, rfl⟩
  | cons b bytes ih =>
    obtain ⟨cells, h⟩ := ih { m with cells := m.cells.insert start b } (start + 1)
    exact ⟨cells, h⟩

theorem follows_of_write? {m m' : Memory} {start : Nat} {bytes : Bytes}
    (h : m.write? start bytes = some m') : m'.Follows m := by
  unfold write? at h
  split at h
  · obtain ⟨cells, hc⟩ := overwrite_eq m start bytes
    rw [← Option.some.inj h, hc]
    exact ⟨rfl, rfl, Nat.le_refl _⟩
  · cases h

theorem follows_of_grow? {m m' : Memory} {n : Nat} (h : m.grow? n = some m') : m'.Follows m := by
  unfold grow? at h
  split at h
  · rw [← Option.some.inj h]
    exact ⟨rfl, rfl, Nat.le_add_right _ _⟩
  · cases h

end Memory

/-! ## Instructions -/

theorem memoryNumber_cases (home : Instance) (i : Nat) (s : Store E) :
    memoryNumber home i s = .stop .trap s ∨
      ∃ place ∈ home.memories, ∃ m, s.memories[place]? = some m ∧
        memoryNumber home i s = .value (place, m) s := by
  unfold memoryNumber
  cases hplace : home.memories[i]? with
  | none => exact .inl rfl
  | some place =>
    change (Run.orTrap s.memories[place]? >>= fun m => pure (place, m)) s = _ ∨ _
    cases hm : s.memories[place]? with
    | none => exact .inl rfl
    | some m =>
      refine .inr ⟨place, List.mem_of_getElem? hplace, m, hm, ?_⟩
      change (Run.orTrap s.memories[place]? >>= fun m => pure (place, m)) s = _
      rw [hm]
      rfl

theorem within_putMemory {s : Store E} {place : Nat} (writable : Writable P place) {m : Memory}
    (hs : P s) (hm : s.memories[place]? = some m) {why : Stop E} (hwhy : Q why)
    {new : Option Memory} (h : ∀ m', new = some m' → m'.Follows m) {k : Run E α}
    (hk : Run.Keeps P Q k) :
    ((do putMemory place (← Run.orStop why new); k : Run E α) s).Within P Q := by
  cases new with
  | none => exact ⟨hs, hwhy⟩
  | some m' => exact hk _ (writable s m m' hs hm (h m' rfl))

section

variable {home : Instance} (steady : SteadyIn home P) (lenient : Lenient Q)

include lenient in
theorem keeps_memoryNumber (home : Instance) (i : Nat) {f : Nat × Memory → Run E α}
    (h : ∀ s, ∀ place ∈ home.memories, ∀ m, P s → s.memories[place]? = some m →
      (f (place, m) s).Within P Q) :
    Run.Keeps P Q (memoryNumber home i >>= f) := by
  intro s hs
  rw [Run.bind_apply]
  rcases memoryNumber_cases home i s with hrun | ⟨place, hplace, m, hm, hrun⟩
  · rw [hrun]
    exact ⟨hs, lenient.trap⟩
  · rw [hrun]
    exact h s place hplace m hs hm

include steady lenient in
theorem keeps_globalSet (i : Nat) (w : Word) (f : Frame) (rest : List Word) :
    Run.Keeps P Q (E := E) (α := Frame) (do
      let place ← Run.orTrap home.globals[i]?
      let global ← Run.orTrap (← Run.store).globals[place]?
      putGlobal place global w
      return { f with operands := rest }) := by
  cases hplace : home.globals[i]? with
  | none => exact .of_stop lenient.trap
  | some place =>
    change Run.Keeps P Q (Run.store >>= fun s => Run.orTrap s.globals[place]? >>= fun global =>
      putGlobal place global w >>= fun _ => pure { f with operands := rest })
    refine .of_store fun s hs => ?_
    cases hg : s.globals[place]? with
    | none => exact ⟨hs, lenient.trap⟩
    | some global => exact steady.global place (List.mem_of_getElem? hplace) s global w hs hg

include steady lenient in
theorem keeps_memoryGrow (i : Nat) (n : Word) (f : Frame) (rest : List Word) :
    Run.Keeps P Q (E := E) (Op.run home (.memoryGrow i) ⟨f.locals, n :: rest⟩) := by
  refine keeps_memoryNumber lenient home i fun s place hplace m hs hm => ?_
  dsimp only
  cases hg : m.grow? n.toNat with
  | none => exact hs
  | some grown => exact steady.memory place hplace s m grown hs hm (Memory.follows_of_grow? hg)

include steady lenient in
theorem keeps_op (op : Op) (f : Frame) : Run.Keeps P Q (op.run home f) := by
  have stop : Run.Keeps P Q (Run.stop .trap : Run E Frame) := .of_stop lenient.trap
  have trap {γ : Type} (a : Option γ) : Run.Keeps P Q (Run.orTrap a) := .of_orStop lenient.trap a
  have fault (arg : MemArg) (base : Word) (width : Width) : Q (arg.stop base width) := by
    unfold MemArg.stop
    split
    · exact lenient.memoryFault
    · exact lenient.trap
  obtain ⟨locals, operands⟩ := f
  cases op with
  | nop | const => exact .of_pure _
  | drop | localSet | localTee | eqz =>
    cases operands with
    | nil => exact stop
    | cons => exact .of_pure _
  | select =>
    match operands with
    | [] | [_] | [_, _] => exact stop
    | _ :: _ :: _ :: _ => exact .of_pure _
  | localGet => exact .bind (trap _) fun w => .of_pure _
  | globalGet =>
    exact .bind (trap _) fun place => .of_store fun s hs =>
      Run.Keeps.bind (trap _) (fun global => .of_pure _) s hs
  | globalSet i =>
    cases operands with
    | nil => exact stop
    | cons w rest => exact keeps_globalSet steady lenient i w ⟨locals, w :: rest⟩ rest
  | load =>
    cases operands with
    | nil => exact stop
    | cons =>
      refine keeps_memoryNumber lenient home _ fun s place _ m hs hm => ?_
      exact Run.Keeps.bind (.of_orStop (fault _ _ _) _) (fun bytes => .of_pure _) s hs
  | store =>
    match operands with
    | [] | [_] => exact stop
    | _ :: _ :: _ =>
      refine keeps_memoryNumber lenient home _ fun s place hplace m hs hm => ?_
      exact within_putMemory (steady.memory place hplace) hs hm (fault _ _ _)
        (fun m' => Memory.follows_of_write?)
        (.of_pure _)
  | memorySize =>
    exact keeps_memoryNumber lenient home _ fun s place _ m hs hm => hs
  | memoryGrow i =>
    cases operands with
    | nil => exact stop
    | cons n rest => exact keeps_memoryGrow steady lenient i n ⟨locals, n :: rest⟩ rest
  | memoryCopy =>
    match operands with
    | [] | [_] | [_, _] => exact stop
    | _ :: _ :: _ :: _ =>
      refine keeps_memoryNumber lenient home _ fun s place _ m hs hm => ?_
      refine Run.Keeps.bind (trap _) (fun bytes => ?_) s hs
      refine keeps_memoryNumber lenient home _ fun s place hplace m hs hm => ?_
      exact within_putMemory (steady.memory place hplace) hs hm lenient.trap
        (fun m' => Memory.follows_of_write?)
        (.of_pure _)
  | arith =>
    match operands with
    | [] | [_] => exact stop
    | _ :: _ :: _ => exact .bind (trap _) fun w => .of_pure _

/-! ## Code -/

include lenient in
theorem keeps_iterate {body : Frame → Run E Flow} (hbody : ∀ f, Run.Keeps P Q (body f))
    (outer : Frame) (params results turns : Nat) :
    ∀ f, Run.Keeps P Q (iterate body outer params results turns f) := by
  induction turns with
  | zero => exact fun f => .of_stop lenient.endless
  | succ turns ih =>
    intro f
    rw [iterate]
    refine (hbody f).bind fun flow => ?_
    split
    · exact ih _
    · exact .of_pure _
    · exact .of_pure _
    · exact .of_pure _

theorem keeps_runBlock {body : Frame → Run E Flow} (hbody : ∀ f, Run.Keeps P Q (body f))
    (type : BlockType) (f : Frame) : Run.Keeps P Q (runBlock body type f) :=
  (hbody _).bind fun _ => .of_pure _

/-! ## Calls by code -/

/-- A slot of a table holds the function at a place. -/
def Table.Has (t : Table) (place : Nat) : Prop := ∃ slot, t.slot? slot = some place

/-- Code of an instance can call the function at a place: the instance has it, or a table of the
instance does. -/
def Store.Reaches (s : Store E) (home : Instance) (place : Nat) : Prop :=
  place ∈ home.functions ∨ ∃ i ∈ home.tables, ∃ t, s.tables[i]? = some t ∧ t.Has place

/-- Calls by running code of the functions that it reaches keep the property. -/
def Activation.Keeps (P : Store E → Prop) (Q : Stop E → Prop) (a : Activation E) : Prop :=
  ∀ s place arguments, P s → s.Reaches a.home place → (a.call place arguments s).Within P Q

theorem functionInSlot_cases (home : Instance) (type : FuncType) (i : Nat) (slot : Word)
    (s : Store E) :
    functionInSlot home type i slot s = .stop .trap s ∨
      ∃ place, s.Reaches home place ∧ functionInSlot home type i slot s = .value place s := by
  unfold functionInSlot
  rw [Run.store_bind]
  cases htable : home.tables[i]? with
  | none => exact .inl rfl
  | some tablePlace =>
    rw [Run.bind_of_value (Run.orTrap_some tablePlace s)]
    cases ht : s.tables[tablePlace]? with
    | none => exact .inl rfl
    | some t =>
      rw [Run.bind_of_value (Run.orTrap_some t s)]
      cases hslot : t.slot? slot.toNat with
      | none => exact .inl rfl
      | some place =>
        rw [Run.bind_of_value (Run.orTrap_some place s), Run.store_bind]
        cases hf : s.functions[place]? with
        | none => exact .inl rfl
        | some function =>
          rw [Run.bind_of_value (Run.orTrap_some function s)]
          split
          · exact .inr ⟨place, .inr ⟨tablePlace, List.mem_of_getElem? htable, t, ht, slot.toNat, hslot⟩,
              rfl⟩
          · exact .inl rfl

variable {a : Activation E}

include lenient in
theorem within_callPlace (calls : a.Keeps P Q) {place : Nat} {s : Store E} (hs : P s)
    (reached : s.Reaches a.home place) (f : Frame) : (callPlace a place f s).Within P Q := by
  unfold callPlace
  rw [Run.store_bind]
  cases hf : s.functions[place]? with
  | none => exact ⟨hs, lenient.trap⟩
  | some function =>
    rw [Run.bind_of_value (Run.orTrap_some function s)]
    exact (calls s place _ hs reached).bind fun results => .of_pure _

include lenient in
theorem keeps_callNumber (calls : a.Keeps P Q) (i : Nat) (f : Frame) :
    Run.Keeps P Q (callNumber a i f) := by
  intro s hs
  unfold callNumber
  cases hplace : a.home.functions[i]? with
  | none => exact ⟨hs, lenient.trap⟩
  | some place =>
    exact within_callPlace lenient calls hs (.inl (List.mem_of_getElem? hplace)) f

include lenient in
theorem keeps_callIndirect (calls : a.Keeps P Q) (type : FuncType) (i : Nat) (slot : Word)
    (f : Frame) :
    Run.Keeps P Q (functionInSlot a.home type i slot >>= fun place => callPlace a place f) := by
  intro s hs
  rcases functionInSlot_cases a.home type i slot s with h | ⟨place, reached, h⟩
  · rw [Run.bind_of_stop h]
    exact ⟨hs, lenient.trap⟩
  · rw [Run.bind_of_value h]
    exact within_callPlace lenient calls hs reached f

end

mutual

theorem keeps_run {a : Activation E} (steady : SteadyIn a.home P) (lenient : Lenient Q)
    (calls : a.Keeps P Q) : (i : Instr) → (f : Frame) → Run.Keeps P Q (Instr.run a i f)
  | .op o, f => by
    rw [Instr.run]
    exact (keeps_op steady lenient o f).bind fun _ => .of_pure _
  | .unreachable, f => by
    rw [Instr.run]
    exact .of_stop lenient.trap
  | .block t body, f => by
    rw [Instr.run]
    exact keeps_runBlock (keeps_runAll steady lenient calls body) t f
  | .loop t body, f => by
    rw [Instr.run]
    exact keeps_iterate lenient (keeps_runAll steady lenient calls body) f _ _ _ _
  | .cond t yes no, f => by
    rw [Instr.run]
    split
    · exact .of_stop lenient.trap
    · refine keeps_runBlock (fun f => ?_) t _
      split
      · exact keeps_runAll steady lenient calls yes f
      · exact keeps_runAll steady lenient calls no f
  | .br depth, f => by
    rw [Instr.run]
    exact .of_pure _
  | .brIf depth, f => by
    rw [Instr.run]
    split
    · exact .of_stop lenient.trap
    · exact .of_pure _
  | .ret, f => by
    rw [Instr.run]
    exact .of_pure _
  | .call i, f => by
    rw [Instr.run]
    exact keeps_callNumber lenient calls i f
  | .callIndirect type i, f => by
    rw [Instr.run]
    split
    · exact .of_stop lenient.trap
    · exact keeps_callIndirect lenient calls type i _ _

theorem keeps_runAll {a : Activation E} (steady : SteadyIn a.home P) (lenient : Lenient Q)
    (calls : a.Keeps P Q) : (is : List Instr) → (f : Frame) → Run.Keeps P Q (Instr.runAll a is f)
  | [], f => by
    rw [Instr.runAll]
    exact .of_pure _
  | i :: is, f => by
    rw [Instr.runAll]
    refine (keeps_run steady lenient calls i f).bind fun flow => ?_
    split
    · exact keeps_runAll steady lenient calls is _
    · exact .of_pure _

end

theorem keeps_function {a : Activation E} (steady : SteadyIn a.home P) (lenient : Lenient Q)
    (calls : a.Keeps P Q) (code : Function) (type : FuncType) (arguments : List Word) :
    Run.Keeps P Q (code.run type a arguments) :=
  (keeps_runAll steady lenient calls code.body _).bind fun _ => .of_pure _

/-! ## Calls -/

section

variable {host : HostFunctions E} {regime : Regime} {stack place : Nat} {caller : Option Nat}
  {arguments : List Word} {s : Store E}

theorem invoke_of_none (h : s.functions[place]? = none) :
    invoke host regime stack caller place arguments s = .stop .trap s := by
  rw [invoke]
  simp only [bind, Run.bind, Run.store, h]
  rfl

theorem invoke_of_host {type : FuncType} {function : E.Function}
    (h : s.functions[place]? = some (.host type function)) :
    invoke host regime stack caller place arguments s =
      if stack < crossingBytes then .stop .trap s
      else
        host function (invoke host regime (stack - crossingBytes) none) caller arguments s := by
  rw [invoke]
  simp only [bind, Run.bind, Run.store, h]
  split <;> rfl

theorem invoke_of_guest {type : FuncType} {home : Nat} {code : Function} {kept : Nat}
    (h : s.functions[place]? = some (.guest type home code kept)) :
    invoke host regime stack caller place arguments s =
      if stack < linkBytes + kept then .stop .trap s
      else
        match s.instances[home]? with
        | none => .stop .trap s
        | some inst =>
          (code.run type
            ⟨inst, invoke host regime (stack - (linkBytes + kept)) (some home), regime.turns⟩
            arguments).mapStop (Stop.leaving regime.traced) s := by
  rw [invoke]
  simp only [bind, Run.bind, Run.store, h]
  split
  · rfl
  · simp only [Run.bind, Run.store]
    cases s.instances[home]? <;> rfl

end

theorem callPlace_of_stop {a : Activation E} {place : Nat} {function : FunctionInstance E}
    {f : Frame} {s s' : Store E} {why : Stop E} (held : s.functions[place]? = some function)
    (h : a.call place (f.operands.take function.type.params.length).reverse s = .stop why s') :
    callPlace a place f s = .stop why s' := by
  unfold callPlace
  rw [Run.store_bind, held, Run.bind_of_value (Run.orTrap_some function s)]
  exact Run.bind_of_stop h _

/-- Code that calls what stops goes no further. -/
theorem runAll_of_call_stop {a : Activation E} {k place : Nat} {function : FunctionInstance E}
    {f : Frame} {s s' : Store E} {why : Stop E} (hplace : a.home.functions[k]? = some place)
    (held : s.functions[place]? = some function)
    (h : a.call place (f.operands.take function.type.params.length).reverse s = .stop why s')
    (rest : List Instr) : Instr.runAll a (.call k :: rest) f s = .stop why s' := by
  have hcall : callNumber a k f s = .stop why s' := by
    unfold callNumber
    rw [hplace, Run.bind_of_value (Run.orTrap_some place s)]
    exact callPlace_of_stop held h
  rw [Instr.runAll, Instr.run]
  exact Run.bind_of_stop hcall _

theorem runAll_of_callIndirect_stop {a : Activation E} {type : FuncType} {i place : Nat}
    {slot : Word} {function : FunctionInstance E} {f : Frame} {s s' : Store E} {why : Stop E}
    (found : functionInSlot a.home type i slot s = .value place s)
    (held : s.functions[place]? = some function)
    (h : a.call place (f.operands.take function.type.params.length).reverse s = .stop why s')
    (rest : List Instr) :
    Instr.runAll a (.callIndirect type i :: rest) (f.push slot) s = .stop why s' := by
  rw [Instr.runAll, Instr.run]
  refine Run.bind_of_stop ?_ _
  exact (Run.bind_of_value found _).trans (callPlace_of_stop held h)

/-- Which calls are made: the place of the instance that calls, if guest code calls, the place of
the function and the arguments. -/
abbrev Calls := Option Nat → Nat → List Word → Prop

/-- Guest code of the instance `inst` at a place makes its calls: it calls the functions that it
reaches. -/
def Calls.By (May : Calls) (P : Store E → Prop) (home : Nat) (inst : Instance) : Prop :=
  ∀ s place arguments, P s → s.Reaches inst place → May (some home) place arguments

/-- Guest code makes its calls. -/
def Calls.Guest (May : Calls) (P : Store E → Prop) : Prop :=
  ∀ s home inst, P s → s.instances[home]? = some inst → May.By P home inst

/-- The calls that are made lead to guest code that may change what its instance has and that makes
its calls. -/
def Calls.Inside (May : Calls) (P : Store E → Prop) : Prop :=
  ∀ s caller place arguments type home code kept inst, P s → May caller place arguments →
    s.functions[place]? = some (.guest type home code kept) → s.instances[home]? = some inst →
    SteadyIn inst P ∧ May.By P home inst

theorem Calls.Guest.inside {May : Calls} (guest : May.Guest P) (steady : Steady P) :
    May.Inside P :=
  fun s _ _ _ _ home _ _ inst hs _ _ hinst => ⟨steady.within inst, guest s home inst hs hinst⟩

/-- The embedder's functions that a store holds keep the property if calls of the store do. -/
def HostFunctions.Keep (May : Calls) (P : Store E → Prop) (Q : Stop E → Prop)
    (host : HostFunctions E) : Prop :=
  ∀ s place type function caller arguments, P s →
    s.functions[place]? = some (.host type function) → May caller place arguments →
    ∀ call : Nat → List Word → Run E (List Word),
      (∀ place arguments, May none place arguments → Run.Keeps P Q (call place arguments)) →
      (host function call caller arguments s).Within P Q

/-- The calls that are made keep the property where they lead to guest code, either outright or
because that code may change what its instance has and makes its calls. -/
def Calls.Entered (May : Calls) (P : Store E → Prop) (Q : Stop E → Prop) (host : HostFunctions E)
    (regime : Regime) : Prop :=
  ∀ s stack caller place arguments type home code kept inst, P s → May caller place arguments →
    s.functions[place]? = some (.guest type home code kept) → s.instances[home]? = some inst →
    (SteadyIn inst P ∧ May.By P home inst) ∨
      (invoke host regime stack caller place arguments s).Within P Q

/-- The calls that are made keep the property where they lead to one of the embedder's functions,
if the calls that this function makes in turn do. -/
def Calls.Crossed (May : Calls) (P : Store E → Prop) (Q : Stop E → Prop) (host : HostFunctions E)
    (regime : Regime) : Prop :=
  ∀ s stack caller place arguments type function, P s → May caller place arguments →
    s.functions[place]? = some (.host type function) →
    (∀ place arguments, May none place arguments →
      Run.Keeps P Q (invoke host regime stack none place arguments)) →
    (host function (invoke host regime stack none) caller arguments s).Within P Q

/-- Calls that keep the property where they enter guest code and where they cross to the embedder
keep it altogether. -/
theorem keeps_invoke_of {May : Calls} (lenient : Lenient Q) {host : HostFunctions E}
    {regime : Regime} (entered : May.Entered P Q host regime)
    (crossed : May.Crossed P Q host regime) (stack : Nat) :
    ∀ (caller : Option Nat) (place : Nat) (arguments : List Word), May caller place arguments →
      Run.Keeps P Q (invoke host regime stack caller place arguments) := by
  -- every call takes some of the stack, also one that the embedder makes
  induction stack using Nat.strongRecOn with
  | ind stack ih =>
    intro caller place arguments may s hs
    have trap : Ended.Within P Q (.stop .trap s : Ended E (List Word)) := ⟨hs, lenient.trap⟩
    cases hf : s.functions[place]? with
    | none =>
      rw [invoke_of_none hf]
      exact trap
    | some function =>
      cases function with
      | host type function =>
        rw [invoke_of_host hf]
        split
        · exact trap
        · next hstack =>
          have hlt : stack - crossingBytes < stack := by
            simp only [crossingBytes] at *
            omega
          exact crossed s _ caller place arguments type function hs may hf (ih _ hlt none)
      | guest type home code kept =>
        cases hi : s.instances[home]? with
        | none =>
          rw [invoke_of_guest hf, hi]
          split <;> exact trap
        | some inst =>
          obtain ⟨steady, may⟩ | outright :=
            entered s stack caller place arguments type home code kept inst hs may hf hi
          · rw [invoke_of_guest hf, hi]
            split
            · exact trap
            · next hstack =>
              have hlt : stack - (linkBytes + kept) < stack := by
                simp only [linkBytes] at *
                omega
              have leaving : ∀ why, Q why → Q (why.leaving regime.traced) := fun _ =>
                lenient.leaving regime.traced
              have calls : Activation.Keeps P Q ⟨inst,
                  invoke host regime (stack - (linkBytes + kept)) (some home), regime.turns⟩ := by
                intro s place arguments hs reached
                exact ih _ hlt (some home) place arguments (may s place arguments hs reached) s hs
              exact (keeps_function steady lenient calls code type arguments).mapStop leaving s hs
          · exact outright

/-- **Every call keeps what guest code may not change and the embedder's functions keep.** -/
theorem keeps_invoke {May : Calls} (lenient : Lenient Q) (inside : May.Inside P)
    {host : HostFunctions E} (hhost : host.Keep May P Q) (regime : Regime) (stack : Nat) :
    ∀ (caller : Option Nat) (place : Nat) (arguments : List Word), May caller place arguments →
      Run.Keeps P Q (invoke host regime stack caller place arguments) := by
  refine keeps_invoke_of lenient ?_ ?_ stack
  · intro s _ caller place arguments type home code kept inst hs may held hinst
    exact .inl (inside s caller place arguments type home code kept inst hs may held hinst)
  · intro s _ caller place arguments type function hs may held calls
    exact hhost s place type function caller arguments hs held may _ calls

/-! ## Instantiation -/

theorem keeps_checkElements (home : Instance) (lenient : Lenient Q) (es : List ElementSegment) :
    Run.Keeps P Q (Module.checkElements home es) := by
  refine .of_store fun s hs => ?_
  split
  · exact hs
  · exact ⟨hs, lenient.trap⟩

theorem keeps_placeData {home : Instance} (steady : SteadyIn home P) (lenient : Lenient Q)
    (ds : List DataSegment) : Run.Keeps P Q (Module.placeData home ds) := by
  induction ds with
  | nil => exact .of_pure _
  | cons d ds ih =>
    refine keeps_memoryNumber lenient home _ fun s place hplace m hs hm => ?_
    exact within_putMemory (steady.memory place hplace) hs hm lenient.trap
      (fun m' => Memory.follows_of_write?) ih

theorem instantiate_apply (host : HostFunctions E) (regime : Regime) (m : Module)
    (parts : List Extern) (s : Store E) :
    m.instantiate host regime parts s = (do
      Module.checkElements (m.newInstance s parts) m.elements
      Module.placeData (m.newInstance s parts) m.data
      match m.start with
      | none => return s.instances.length
      | some f =>
        discard (invoke host regime regime.stack none
          (← Run.orTrap (m.newInstance s parts).functions[f]?) [])
        return s.instances.length : Run E Nat) (m.allocate parts s) := rfl

theorem within_instantiate {May : Calls} (steady : Steady P) (lenient : Lenient Q)
    (guest : May.Guest P) (begin : ∀ place, May none place []) {host : HostFunctions E}
    (hhost : host.Keep May P Q) (regime : Regime) {m : Module} {parts : List Extern} {s : Store E}
    (hs : P (m.allocate parts s)) : (m.instantiate host regime parts s).Within P Q := by
  rw [instantiate_apply]
  refine Run.Keeps.bind (keeps_checkElements _ lenient _) (fun _ => ?_) _ hs
  refine .bind (keeps_placeData (steady.within _) lenient _) fun _ => ?_
  split
  · exact .of_pure _
  · refine .bind (.of_orStop lenient.trap _) fun place => ?_
    refine .bind (.bind ?_ fun _ => .of_pure _) fun _ => .of_pure _
    exact keeps_invoke lenient (guest.inside steady) hhost regime regime.stack none place []
      (begin place)

theorem instantiate_value {host : HostFunctions E} {regime : Regime} {m : Module}
    {parts : List Extern} {s s' : Store E} {place : Nat}
    (h : m.instantiate host regime parts s = .value place s') : place = s.instances.length := by
  rw [instantiate_apply] at h
  obtain ⟨_, s₀, -, h⟩ := Run.bind_eq_value.1 h
  obtain ⟨_, s₁, -, h⟩ := Run.bind_eq_value.1 h
  cases hstart : m.start with
  | none =>
    rw [hstart] at h
    cases h
    rfl
  | some f =>
    rw [hstart] at h
    obtain ⟨_, s₂, -, h⟩ := Run.bind_eq_value.1 h
    obtain ⟨_, s₃, -, h⟩ := Run.bind_eq_value.1 h
    cases h
    rfl

end ModuleHost.Wasm
