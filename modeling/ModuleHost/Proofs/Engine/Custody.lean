import ModuleHost.Proofs.Engine.Deeds
import ModuleHost.Proofs.Engine.Reporting

/-!
# Who holds a buffer

For a call the host gets two buffers of the guest and is told of a third one, the output. When the
call completes it hands all three back. The guest chooses where its output is, so that one buffer
may be handed back twice.

* `Deed.allocated?`, `Deed.freed?` — the buffer that a step obtains, the one that it hands back;
* `Separate` — no buffer is handed out over one that was not handed back yet;
* `FreesOnce` — no pointer is handed back twice, and each buffer obtained is handed back once;
* `Completion.separate_iff`, `Completion.freesOnce` — what both come down to in a call;
* `found`, `Trial`, `exists_of_found` — calls of a module with all their steps, by running them;
* **`freesOnce_iff`**: so it is exactly if the output begins at neither of the two buffers;
* `echo_freesTwice` — the output of a function that returns its input is handed back twice.
-/

namespace ModuleHost

open Wasm (Word Store Run Instance Apart)

/-! ## Buffers in the steps of a call -/

/-- The pointer and the length of the buffer that a step obtains. -/
def Deed.allocated? : Deed → Option (Word × Nat)
  | .allocates length pointer => some (pointer, length)
  | .writes .. | .runs .. | .frees .. => none

/-- The pointer and the length of the buffer that a step hands back. -/
def Deed.freed? : Deed → Option (Word × Word)
  | .frees pointer length => some (pointer, length)
  | .allocates .. | .writes .. | .runs .. => none

/-- Behind steps that left the buffers `held`, no buffer is handed out that overlaps one which was
not handed back. -/
def Separate : List (Word × Nat) → List Deed → Prop
  | _, [] => True
  | held, .allocates length pointer :: deeds =>
    (∀ b ∈ held, Apart b.1.toNat b.2 pointer.toNat length) ∧
      Separate ((pointer, length) :: held) deeds
  | held, .frees pointer _ :: deeds => Separate (held.filter (·.1 ≠ pointer)) deeds
  | held, _ :: deeds => Separate held deeds

/-- No pointer is handed back twice, and each buffer that was obtained is handed back once, with the
length that it was obtained with. -/
structure FreesOnce (deeds : List Deed) : Prop where
  distinct : ((deeds.filterMap Deed.freed?).map Prod.fst).Nodup
  once : ∀ b ∈ deeds.filterMap Deed.allocated?,
    (deeds.filterMap Deed.freed?).filter (·.1 = b.1) = [(b.1, UInt32.ofNat b.2)]

theorem separate_frees {held : List (Word × Nat)} (buffers : List (Word × Word)) :
    Separate held (buffers.map fun b => .frees b.1 b.2) := by
  induction buffers generalizing held with
  | nil => trivial
  | cons b buffers ih => exact ih

/-- Two different words, each of them freed once or also as the output. -/
theorem freed_cases (length : Word) {inputAt slots outputAt outputLength : Word}
    (h : inputAt ≠ slots) :
    (((handedBack inputAt length slots outputAt outputLength).map Prod.fst).Nodup ∧
      (handedBack inputAt length slots outputAt outputLength).filter (·.1 = inputAt) =
        [(inputAt, length)] ∧
      (handedBack inputAt length slots outputAt outputLength).filter (·.1 = slots) =
        [(slots, 8)]) ↔
      (0 < outputLength.toInt32 → outputAt ≠ inputAt ∧ outputAt ≠ slots) := by
  unfold handedBack
  by_cases hlength : 0 < outputLength.toInt32
  · rw [if_pos hlength]
    by_cases hinput : outputAt = inputAt
    · subst hinput
      simp [hlength, h]
    · by_cases hslots : outputAt = slots
      · subst hslots
        simp [hlength, hinput]
      · simp [hlength, hinput, hslots, h, h.symm]
  · simp [hlength, h, h.symm]

namespace Completion

variable {i : Instance} {call : GuestCall} {name : String} {input : Bytes} {output : RawOutput}
  {s s' : Store guests} (c : Completion i call name input s output s')

theorem deeds_of_takes (takes : c.allocator.deallocate.isSome) :
    c.deeds = c.episode.deeds c.place input ++
      (c.episode.returned input c.outputAt c.outputLength).map fun b => .frees b.1 b.2 := by
  rw [deeds, Allocator.freeing, if_pos takes]

theorem allocated_deeds (takes : c.allocator.deallocate.isSome) :
    c.deeds.filterMap Deed.allocated? =
      [(c.episode.inputAt, input.length), (c.episode.slots, emptySlots.length)] := by
  have hfrees : ((c.episode.returned input c.outputAt c.outputLength).map fun b =>
      Deed.frees b.1 b.2).filterMap Deed.allocated? = [] := by
    rw [List.filterMap_map, List.filterMap_eq_nil_iff]
    exact fun _ _ => rfl
  rw [c.deeds_of_takes takes, List.filterMap_append, hfrees]
  rfl

theorem freed_deeds (takes : c.allocator.deallocate.isSome) :
    c.deeds.filterMap Deed.freed? = c.episode.returned input c.outputAt c.outputLength := by
  have hfrees : ((c.episode.returned input c.outputAt c.outputLength).map fun b =>
      Deed.frees b.1 b.2).filterMap Deed.freed? =
        c.episode.returned input c.outputAt c.outputLength := by
    rw [List.filterMap_map]
    exact List.filterMap_some
  rw [c.deeds_of_takes takes, List.filterMap_append, hfrees]
  rfl

/-- The two buffers do not overlap exactly if the allocator never hands out a buffer over another.
-/
theorem separate_iff (takes : c.allocator.deallocate.isSome) : Separate [] c.deeds ↔
    Apart c.episode.inputAt.toNat input.length c.episode.slots.toNat emptySlots.length := by
  rw [c.deeds_of_takes takes]
  simp only [Episode.deeds, List.cons_append, List.nil_append, Separate, List.not_mem_nil,
    List.mem_singleton, forall_eq, separate_frees, and_true, false_implies, implies_true, true_and]

theorem freesOnce (takes : c.allocator.deallocate.isSome)
    (different : c.episode.inputAt ≠ c.episode.slots) : FreesOnce c.deeds ↔
      (0 < c.outputLength.toInt32 →
        c.outputAt ≠ c.episode.inputAt ∧ c.outputAt ≠ c.episode.slots) := by
  rw [← freed_cases (UInt32.ofNat input.length) different]
  have hfreed := c.freed_deeds takes
  have hallocated := c.allocated_deeds takes
  rw [Episode.returned] at hfreed
  constructor
  · rintro ⟨distinct, once⟩
    rw [hfreed, hallocated] at once
    rw [hfreed] at distinct
    exact ⟨distinct, once _ List.mem_cons_self, once _ (List.mem_cons_of_mem _ List.mem_cons_self)⟩
  · rintro ⟨distinct, hinput, hslots⟩
    constructor
    · rwa [hfreed]
    · rw [hfreed, hallocated]
      rintro b hb
      rcases List.mem_cons.1 hb with rfl | hb
      · exact hinput
      · cases List.mem_singleton.1 hb
        exact hslots

end Completion

/-! ## What is found in a call -/

/-- The places of the input, the slots and the output of a call, and the length of the output. -/
def whereabouts (i : Instance) (call : GuestCall) (name : String) (input : Bytes) :
    Guest (Word × Word × Word × Word) := do
  let place ← Run.orTrap (exportedFunction? i name)
  let a ← orRaise (Allocator.ofInstance (← Run.store) i)
  let (inputAt, slots, lengthSlot) ← handOver a call input
  discard (call place [inputAt, UInt32.ofNat input.length, slots, lengthSlot])
  return (inputAt, slots, ← readSlot a.memory slots, ← readSlot a.memory lengthSlot)

theorem Completion.whereabouts_eq {i : Instance} {call : GuestCall} {name : String} {input : Bytes}
    {output : RawOutput} {s s' : Store guests} (c : Completion i call name input s output s') :
    whereabouts i call name input s =
      .value (c.episode.inputAt, c.episode.slots, c.outputAt, c.outputLength) c.episode.ended := by
  cases c.conducted.ran with
  | runs ran =>
    have hrun : (discard (call c.place (c.episode.arguments input)) : Guest Unit) c.episode.begun =
        .value () c.episode.ended := by
      change (call c.place _ >>= fun _ => pure ()) _ = _
      rw [Run.bind_of_value ran]
      rfl
    have hplace : (Run.orTrap (exportedFunction? i name) : Guest Nat) s = .value c.place s := by
      rw [c.callable.exported]
      rfl
    unfold whereabouts
    rw [Run.bind_of_value hplace, Run.store_bind, c.callable.allocator,
      Run.bind_of_value (orRaise_ok _ _), Run.bind_of_value c.conducted.handOver_eq]
    dsimp only
    rw [Episode.arguments] at hrun
    rw [Run.bind_of_value hrun, Run.bind_of_value (readSlot_of_some c.produced.pointer),
      Run.bind_of_value (readSlot_of_some c.produced.length)]
    rfl

/-- A service of one module. -/
def lone (bytes : Bytes) : ServiceDescriptor := ⟨"s", [⟨"m", .owned bytes, plainSettings⟩], none⟩

/-- The host calls functions. -/
def hostCall : GuestCall := Wasm.invoke hostFunctions {} ({} : Wasm.Regime).stack none

/-- What is found when the function `e` of a service of one module is called, if the call completes
and the module takes buffers back. -/
def found (bytes input : Bytes) : Option (Word × Word × Word × Word) :=
  let s := standing (lone bytes)
  let i := s.instances.getD 1 {}
  match (Allocator.deallocate? s i).isSome, callExport i hostCall "e" input s,
    whereabouts i hostCall "e" input s with
  | true, .value (.ok _) _, .value w _ => some w
  | _, _, _ => none

/-- The calls of that function that complete. -/
abbrev Trial (bytes input : Bytes) (output : RawOutput) (s' : Store guests) : Type :=
  Completion ((standing (lone bytes)).instances.getD 1 {}) hostCall "e" input
    (standing (lone bytes)) output s'

theorem exists_of_found {bytes input : Bytes} {inputAt slots outputAt outputLength : Word}
    (h : found bytes input = some (inputAt, slots, outputAt, outputLength)) :
    ∃ output s', ∃ c : Trial bytes input output s', c.allocator.deallocate.isSome ∧
      c.episode.inputAt = inputAt ∧ c.episode.slots = slots ∧ c.outputAt = outputAt ∧
      c.outputLength = outputLength := by
  unfold found at h
  dsimp only at h
  split at h
  · next takes hcall hw =>
    cases h
    obtain ⟨c⟩ := callExport_eq_ok_iff.1 hcall
    have heq := c.whereabouts_eq.symm.trans hw
    cases heq
    have takes' : c.allocator.deallocate.isSome := by
      rwa [(Allocator.of_ofInstance c.callable.allocator).deallocate]
    exact ⟨_, _, c, takes', rfl, rfl, rfl, rfl⟩
  · cases h

/-! ## Buffers that are handed back twice -/

/-- Two buffers that do not overlap begin at different places if one of them has bytes. -/
theorem ne_of_apart {p q : Word} {n n' : Nat} (h : Apart p.toNat n q.toNat n') (hn : 0 < n)
    (hn' : 0 < n') : p ≠ q := by
  rintro rfl
  unfold Apart at h
  omega

/-- **When buffers are handed back once.** If a call on an input completes, the guest takes buffers
back and its allocator does not hand out a buffer over another, then every buffer is handed back
once exactly if the output has no bytes or begins at neither of the buffers that the host obtained.
-/
theorem freesOnce_iff {i : Instance} {call : GuestCall} {name : String} {input : Bytes}
    {output : RawOutput} {s s' : Store guests} (nonempty : input ≠ [])
    (completes : callExport i call name input s = .value (.ok output) s')
    (takes : (Allocator.deallocate? s i).isSome) :
    Nonempty (Completion i call name input s output s') ∧
      ∀ c : Completion i call name input s output s', Separate [] c.deeds →
        (FreesOnce c.deeds ↔ (0 < c.outputLength.toInt32 →
          c.outputAt ≠ c.episode.inputAt ∧ c.outputAt ≠ c.episode.slots)) := by
  refine ⟨callExport_eq_ok_iff.1 completes, fun c separate => ?_⟩
  have takes' : c.allocator.deallocate.isSome := by
    rwa [(Allocator.of_ofInstance c.callable.allocator).deallocate]
  refine c.freesOnce takes' (ne_of_apart ((c.separate_iff takes').1 separate) ?_ ?_)
  · exact List.length_pos_iff.2 nonempty
  · exact Nat.succ_pos 7

theorem freesOnce_iff_refusing : ∃ output s',
    ∃ c : Trial Registry.refusing [91, 49, 93] output s', ([91, 49, 93] : Bytes) ≠ [] ∧
      c.allocator.deallocate.isSome ∧ Separate [] c.deeds ∧ 0 < c.outputLength.toInt32 ∧
      FreesOnce c.deeds := by
  have hfound : found Registry.refusing [91, 49, 93] = some (8192, 8195, 16, 4) := by
    decide +kernel
  have nonempty : ([91, 49, 93] : Bytes) ≠ [] := by decide
  obtain ⟨output, s', c, takes, hinput, hslots, houtput, hlength⟩ := exists_of_found hfound
  have separate : Separate [] c.deeds := by
    rw [c.separate_iff takes, hinput, hslots]
    exact .inl (by decide)
  have takes' : (Allocator.deallocate? (standing (lone Registry.refusing))
      ((standing (lone Registry.refusing)).instances.getD 1 {})).isSome := by
    rwa [← (Allocator.of_ofInstance c.callable.allocator).deallocate]
  refine ⟨output, s', c, nonempty, takes, separate, hlength ▸ by decide, ?_⟩
  rw [(freesOnce_iff nonempty (callExport_eq_ok_iff.2 ⟨c⟩) takes').2 c separate, hinput, hslots,
    houtput]
  exact fun _ => by decide

/-- A function that returns its input as its output: the buffer of the input is handed back twice.
-/
theorem echo_freesTwice : ∃ output s',
    ∃ c : Trial Registry.echo [91, 49, 93] output s', ([91, 49, 93] : Bytes) ≠ [] ∧
      c.allocator.deallocate.isSome ∧ Separate [] c.deeds ∧ c.outputAt = c.episode.inputAt ∧
      ¬ FreesOnce c.deeds := by
  have hfound : found Registry.echo [91, 49, 93] = some (8192, 8195, 8192, 3) := by
    decide +kernel
  obtain ⟨output, s', c, takes, hinput, hslots, houtput, hlength⟩ := exists_of_found hfound
  have separate : Separate [] c.deeds := by
    rw [c.separate_iff takes, hinput, hslots]
    exact .inl (by decide)
  refine ⟨output, s', c, by decide, takes, separate, houtput.trans hinput.symm, ?_⟩
  rw [c.freesOnce takes (by rw [hinput, hslots]; decide), houtput, hinput, hslots, hlength]
  decide

end ModuleHost
