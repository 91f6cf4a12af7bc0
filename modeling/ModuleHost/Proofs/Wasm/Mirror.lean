import ModuleHost.Proofs.Wasm.Invariant

/-!
# Running guest code over other data

Guest code does not see the data of the embedder. It does the same over other data, as far as the
embedder's functions do.

* `Store.withData`, `Ended.withData` — the same store, the same end, over other data;
* `Run.Mirrors` — two computations do the same over related data, if the first ends with good data;
  a rule for each combinator;
* `HostFunctions.Mirror` — the embedder's functions do the same;
* **`mirrors_invoke`**: then every call does the same;
* `mirrors_instantiate` — and so does every instantiation.
-/

namespace ModuleHost.Wasm

variable {E : Embedding} {α β : Type}

/-- The store over other data. -/
def Store.withData (s : Store E) (d : E.Data) : Store E := { s with data := d }

/-- The end of a computation over other data. -/
def Ended.withData (d : E.Data) : Ended E α → Ended E α
  | .value a s => .value a (s.withData d)
  | .stop why s => .stop why (s.withData d)

/-- If the computation `x` ends with good data, then it began with good data, and `y` does the same
over data that are related. -/
def Run.Mirrors (Good : E.Data → Prop) (D : E.Data → E.Data → Prop) (x y : Run E α) : Prop :=
  ∀ s, Good (x s).store.data → Good s.data ∧ ∀ d, D s.data d →
    ∃ d', D (x s).store.data d' ∧ y (s.withData d) = (x s).withData d'

variable {Good : E.Data → Prop} {D : E.Data → E.Data → Prop}

namespace Run.Mirrors

theorem of_pure (a : α) : Mirrors Good D (pure a : Run E α) (pure a) :=
  fun _ good => ⟨good, fun d hd => ⟨d, hd, rfl⟩⟩

theorem of_stop (why : Stop E) : Mirrors Good D (stop why : Run E α) (stop why) :=
  fun _ good => ⟨good, fun d hd => ⟨d, hd, rfl⟩⟩

theorem of_orStop (why : Stop E) : (a : Option α) → Mirrors Good D (orStop why a) (orStop why a)
  | some a => of_pure a
  | none => of_stop why

theorem of_orTrap (a : Option α) : Mirrors Good D (orTrap a : Run E α) (orTrap a) :=
  of_orStop .trap a

/-- A change of the store that has nothing to do with the data. -/
theorem of_modify {f : Store E → Store E} (hdata : ∀ s, (f s).data = s.data)
    (hf : ∀ s d, f (s.withData d) = (f s).withData d) : Mirrors Good D (modify f) (modify f) := by
  refine fun s good => ⟨hdata s ▸ good, fun d hd => ⟨d, ?_, ?_⟩⟩
  · exact (hdata s).symm ▸ hd
  · exact congrArg (Ended.value ()) (hf s d)

theorem bind {x y : Run E α} {f g : α → Run E β} (hx : Mirrors Good D x y)
    (hf : ∀ a, Mirrors Good D (f a) (g a)) : Mirrors Good D (x >>= f) (y >>= g) := by
  intro s good
  rw [Run.bind_apply] at good ⊢
  have first := hx s
  cases hxs : x s with
  | value a s₁ =>
    simp only [hxs] at good first ⊢
    obtain ⟨good, then_⟩ := hf a s₁ good
    obtain ⟨good, first⟩ := first good
    refine ⟨good, fun d hd => ?_⟩
    obtain ⟨d₁, hd₁, hy⟩ := first d hd
    obtain ⟨d₂, hd₂, hg⟩ := then_ d₁ hd₁
    exact ⟨d₂, hd₂, by rw [Run.bind_apply, hy]; exact hg⟩
  | stop why s₁ =>
    simp only [hxs] at good first ⊢
    obtain ⟨good, first⟩ := first good
    refine ⟨good, fun d hd => ?_⟩
    obtain ⟨d₁, hd₁, hy⟩ := first d hd
    exact ⟨d₁, hd₁, by rw [Run.bind_apply, hy]; rfl⟩

theorem of_store {f g : Store E → Run E α}
    (hg : ∀ s d, D s.data d → g (s.withData d) = g s) (h : ∀ s, Mirrors Good D (f s) (g s)) :
    Mirrors Good D (store >>= f) (store >>= g) := by
  intro s hs
  obtain ⟨good, same⟩ := h s s hs
  refine ⟨good, fun d hd => ?_⟩
  obtain ⟨d', hd', hy⟩ := same d hd
  exact ⟨d', hd', (congrFun (hg s d hd) _).trans hy⟩

theorem mapStop {x y : Run E α} (hx : Mirrors Good D x y) (f : Stop E → Stop E) :
    Mirrors Good D (x.mapStop f) (y.mapStop f) := by
  intro s good
  have hstore : (x.mapStop f s).store = (x s).store := by
    unfold Run.mapStop
    cases x s <;> rfl
  obtain ⟨good, same⟩ := hx s (hstore ▸ good)
  refine ⟨good, fun d hd => ?_⟩
  obtain ⟨d', hd', hy⟩ := same d hd
  refine ⟨d', hstore ▸ hd', ?_⟩
  unfold Run.mapStop
  rw [hy]
  cases x s <;> rfl

theorem attempt {x y : Run E α} (hx : Mirrors Good D x y) :
    Mirrors Good D x.attempt y.attempt := by
  intro s good
  have hstore : (x.attempt s).store = (x s).store := by
    unfold Run.attempt
    cases x s with
    | value => rfl
    | stop why => cases why <;> rfl
  obtain ⟨good, same⟩ := hx s (hstore ▸ good)
  refine ⟨good, fun d hd => ?_⟩
  obtain ⟨d', hd', hy⟩ := same d hd
  refine ⟨d', hstore ▸ hd', ?_⟩
  unfold Run.attempt
  rw [hy]
  cases x s with
  | value => rfl
  | stop why => cases why <;> rfl

end Run.Mirrors

open Run.Mirrors

/-! ## Instructions -/

theorem mirrors_memoryNumber (home : Instance) (i : Nat) :
    Run.Mirrors Good D (memoryNumber home i) (memoryNumber home i) :=
  (of_orTrap _).bind fun _ => of_store (fun _ _ _ => rfl) fun _ =>
    (of_orTrap _).bind fun _ => of_pure _

theorem mirrors_putMemory (place : Nat) (m : Memory) :
    Run.Mirrors Good D (putMemory place m) (putMemory place m) :=
  of_modify (fun _ => rfl) fun _ _ => rfl

theorem mirrors_putGlobal (place : Nat) (g : Global) (w : Word) :
    Run.Mirrors Good D (putGlobal place g w) (putGlobal place g w) :=
  of_modify (fun _ => rfl) fun _ _ => rfl

theorem mirrors_op (home : Instance) (op : Op) (f : Frame) :
    Run.Mirrors Good D (op.run home f) (op.run home f) := by
  have stop : Run.Mirrors Good D (Run.stop .trap : Run E Frame) (Run.stop .trap) := of_stop .trap
  obtain ⟨locals, operands⟩ := f
  cases op with
  | nop | const => exact of_pure _
  | drop | localSet | localTee | eqz =>
    cases operands with
    | nil => exact stop
    | cons => exact of_pure _
  | select =>
    match operands with
    | [] | [_] | [_, _] => exact stop
    | _ :: _ :: _ :: _ => exact of_pure _
  | localGet => exact (of_orTrap _).bind fun w => of_pure _
  | globalGet =>
    refine (of_orTrap _).bind fun place => of_store (fun _ _ _ => rfl) fun s => ?_
    exact (of_orTrap _).bind fun global => of_pure _
  | globalSet i =>
    cases operands with
    | nil => exact stop
    | cons w rest =>
      refine (of_orTrap _).bind fun place => of_store (fun _ _ _ => rfl) fun s => ?_
      refine (of_orTrap _).bind fun global => ?_
      exact (mirrors_putGlobal place global w).bind fun _ => of_pure _
  | load =>
    cases operands with
    | nil => exact stop
    | cons =>
      refine (mirrors_memoryNumber home _).bind fun memory => ?_
      exact (of_orStop _ _).bind fun bytes => of_pure _
  | store =>
    match operands with
    | [] | [_] => exact stop
    | _ :: _ :: _ =>
      refine (mirrors_memoryNumber home _).bind fun memory => ?_
      refine (of_orStop _ _).bind fun written => ?_
      exact (mirrors_putMemory _ _).bind fun _ => of_pure _
  | memorySize => exact (mirrors_memoryNumber home _).bind fun memory => of_pure _
  | memoryGrow i =>
    cases operands with
    | nil => exact stop
    | cons n rest =>
      refine (mirrors_memoryNumber home _).bind fun memory => ?_
      dsimp only
      split
      · exact of_pure _
      · exact (mirrors_putMemory _ _).bind fun _ => of_pure _
  | memoryCopy =>
    match operands with
    | [] | [_] | [_, _] => exact stop
    | _ :: _ :: _ :: _ =>
      refine (mirrors_memoryNumber home _).bind fun origin => ?_
      refine (of_orTrap _).bind fun bytes => ?_
      refine (mirrors_memoryNumber home _).bind fun target => ?_
      refine (of_orTrap _).bind fun written => ?_
      exact (mirrors_putMemory _ _).bind fun _ => of_pure _
  | arith =>
    match operands with
    | [] | [_] => exact stop
    | _ :: _ :: _ => exact (of_orTrap _).bind fun w => of_pure _

/-! ## Code -/

theorem mirrors_iterate {body body' : Frame → Run E Flow}
    (hbody : ∀ f, Run.Mirrors Good D (body f) (body' f)) (outer : Frame)
    (params results turns : Nat) :
    ∀ f, Run.Mirrors Good D (iterate body outer params results turns f)
      (iterate body' outer params results turns f) := by
  induction turns with
  | zero => exact fun f => of_stop .endless
  | succ turns ih =>
    intro f
    rw [iterate, iterate]
    refine (hbody f).bind fun flow => ?_
    split
    · exact ih _
    · exact of_pure _
    · exact of_pure _
    · exact of_pure _

theorem mirrors_runBlock {body body' : Frame → Run E Flow}
    (hbody : ∀ f, Run.Mirrors Good D (body f) (body' f)) (type : BlockType) (f : Frame) :
    Run.Mirrors Good D (runBlock body type f) (runBlock body' type f) :=
  (hbody _).bind fun _ => of_pure _

/-- Calls of running code do the same. -/
def Activation.Mirrors (Good : E.Data → Prop) (D : E.Data → E.Data → Prop) (a : Activation E) :
    Prop :=
  ∀ place arguments, Run.Mirrors Good D (a.call place arguments) (a.call place arguments)

theorem mirrors_callPlace {a : Activation E} (calls : a.Mirrors Good D) (place : Nat)
    (f : Frame) : Run.Mirrors Good D (callPlace a place f) (callPlace a place f) := by
  refine of_store (fun _ _ _ => rfl) fun s => (of_orTrap _).bind fun function => ?_
  exact (calls place _).bind fun results => of_pure _

theorem mirrors_callNumber {a : Activation E} (calls : a.Mirrors Good D) (i : Nat) (f : Frame) :
    Run.Mirrors Good D (callNumber a i f) (callNumber a i f) :=
  (of_orTrap _).bind fun place => mirrors_callPlace calls place f

theorem mirrors_functionInSlot (home : Instance) (type : FuncType) (i : Nat) (slot : Word) :
    Run.Mirrors Good D (functionInSlot home type i slot : Run E Nat)
      (functionInSlot home type i slot) := by
  refine of_store (fun _ _ _ => rfl) fun s => (of_orTrap _).bind fun tablePlace => ?_
  refine (of_orTrap _).bind fun table => (of_orTrap _).bind fun place => ?_
  refine of_store (fun _ _ _ => rfl) fun s => (of_orTrap _).bind fun function => ?_
  split
  · exact of_pure _
  · exact of_stop .trap

mutual

theorem mirrors_run {a : Activation E} (calls : a.Mirrors Good D) :
    (i : Instr) → (f : Frame) → Run.Mirrors Good D (Instr.run a i f) (Instr.run a i f)
  | .op o, f => by
    rw [Instr.run]
    exact (mirrors_op a.home o f).bind fun _ => of_pure _
  | .unreachable, f => by
    rw [Instr.run]
    exact of_stop .trap
  | .block t body, f => by
    rw [Instr.run]
    exact mirrors_runBlock (mirrors_runAll calls body) t f
  | .loop t body, f => by
    rw [Instr.run]
    exact mirrors_iterate (mirrors_runAll calls body) f _ _ _ _
  | .cond t yes no, f => by
    rw [Instr.run]
    split
    · exact of_stop .trap
    · refine mirrors_runBlock (fun f => ?_) t _
      split
      · exact mirrors_runAll calls yes f
      · exact mirrors_runAll calls no f
  | .br depth, f => by
    rw [Instr.run]
    exact of_pure _
  | .brIf depth, f => by
    rw [Instr.run]
    split
    · exact of_stop .trap
    · exact of_pure _
  | .ret, f => by
    rw [Instr.run]
    exact of_pure _
  | .call i, f => by
    rw [Instr.run]
    exact mirrors_callNumber calls i f
  | .callIndirect type i, f => by
    rw [Instr.run]
    split
    · exact of_stop .trap
    · exact (mirrors_functionInSlot a.home type i _).bind fun place =>
        mirrors_callPlace calls place _

theorem mirrors_runAll {a : Activation E} (calls : a.Mirrors Good D) :
    (is : List Instr) → (f : Frame) → Run.Mirrors Good D (Instr.runAll a is f) (Instr.runAll a is f)
  | [], f => by
    rw [Instr.runAll]
    exact of_pure _
  | i :: is, f => by
    rw [Instr.runAll]
    refine (mirrors_run calls i f).bind fun flow => ?_
    split
    · exact mirrors_runAll calls is _
    · exact of_pure _

end

/-! ## Calls -/

/-- The embedder's functions do the same if calls of the store do. -/
def HostFunctions.Mirror (Good : E.Data → Prop) (D : E.Data → E.Data → Prop)
    (host : HostFunctions E) : Prop :=
  ∀ function caller arguments, ∀ call : Nat → List Word → Run E (List Word),
    (∀ place arguments, Run.Mirrors Good D (call place arguments) (call place arguments)) →
      Run.Mirrors Good D (host function call caller arguments) (host function call caller arguments)

/-- **Every call does the same over other data, if the embedder's functions do.** -/
theorem mirrors_invoke {host : HostFunctions E} (hhost : host.Mirror Good D) (regime : Regime)
    (stack : Nat) : ∀ (caller : Option Nat) (place : Nat) (arguments : List Word),
      Run.Mirrors Good D (invoke host regime stack caller place arguments)
        (invoke host regime stack caller place arguments) := by
  -- every call takes some of the stack, also one that the embedder makes
  induction stack using Nat.strongRecOn with
  | ind stack ih =>
    intro caller place arguments
    rw [invoke]
    refine of_store (fun _ _ _ => rfl) fun s => ?_
    split
    · exact of_stop .trap
    · split
      · exact of_stop .trap
      · next hstack =>
        have hlt : stack - crossingBytes < stack := by
          simp only [crossingBytes] at *
          omega
        exact hhost _ caller arguments _ (ih _ hlt none)
    · split
      · exact of_stop .trap
      · next home code kept _ hstack =>
        have hlt : stack - (linkBytes + kept) < stack := by
          simp only [linkBytes] at *
          omega
        refine of_store (fun _ _ _ => rfl) fun s => ?_
        split
        · exact of_stop .trap
        · next inst _ =>
          refine Run.Mirrors.mapStop ?_ _
          have calls : Activation.Mirrors Good D ⟨inst, invoke host regime
              (stack - (linkBytes + kept)) (some home), regime.turns⟩ := ih _ hlt (some home)
          exact (mirrors_runAll calls _ _).bind fun _ => of_pure _

/-! ## Instantiation -/

theorem mirrors_checkElements (home : Instance) (es : List ElementSegment) :
    Run.Mirrors Good D (Module.checkElements home es : Run E Unit)
      (Module.checkElements home es) := by
  refine of_store (fun _ _ _ => rfl) fun s => ?_
  split
  · exact of_pure _
  · exact of_stop .trap

theorem mirrors_placeData (home : Instance) (ds : List DataSegment) :
    Run.Mirrors Good D (Module.placeData home ds : Run E Unit) (Module.placeData home ds) := by
  induction ds with
  | nil => exact of_pure _
  | cons d ds ih =>
    refine (mirrors_memoryNumber home _).bind fun memory => ?_
    refine of_store (fun _ _ _ => rfl) fun s => ?_
    refine (of_orTrap _).bind fun written => ?_
    exact (mirrors_putMemory _ _).bind fun _ => ih

/-- **Every instantiation does the same over other data.** -/
theorem mirrors_instantiate {host : HostFunctions E} (hhost : host.Mirror Good D) (regime : Regime)
    (m : Module) (parts : List Extern) :
    Run.Mirrors Good D (m.instantiate host regime parts) (m.instantiate host regime parts) := by
  have allocate : Run.Mirrors Good D (Run.modify (m.allocate parts))
      (Run.modify (m.allocate parts)) := of_modify (fun _ => rfl) fun _ _ => rfl
  refine of_store (fun _ _ _ => rfl) fun s => of_store (fun _ _ _ => rfl) fun s' => ?_
  refine allocate.bind fun _ => (mirrors_checkElements _ _).bind fun _ => ?_
  refine (mirrors_placeData _ _).bind fun _ => ?_
  split
  · exact of_pure _
  · refine (of_orTrap _).bind fun place => ?_
    refine Run.Mirrors.bind (Run.Mirrors.bind ?_ fun _ => of_pure _) fun _ => of_pure _
    exact mirrors_invoke hhost regime regime.stack none place []

end ModuleHost.Wasm
