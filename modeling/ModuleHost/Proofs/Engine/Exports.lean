import ModuleHost.Proofs.Engine.Linking
import ModuleHost.Proofs.Wasm.Typing

/-!
# What the modules of a service export

The instances of a service export what their files say, at the types that these give.

* `Engine.decode?_of_compile` — a control module that compiles is one that can be read;
* `keeps_offering`, `Evolves.keeps`, `keeps_of_instantiate` — registrations keep types;
* `Exports` — an instance exports what a module says;
* `typed_of_instantiate` — a new instance is typed once it is ready;
* **`Composed.typed`**: so are, at every stage, the instances of the control module and of the
  modules.
-/

namespace ModuleHost

open Wasm (Store Run Instance Extern Regime Module)
open Registering

/-- A control module that compiles is one that can be read, without imports. -/
theorem Engine.decode?_of_compile {regime : Regime} {bytes : Bytes} {e : Engine}
    (h : compile regime bytes = .ok e) :
    Module.decode? bytes = some e.control ∧ e.control.imports = [] := by
  unfold compile at h
  split at h
  · cases h
  · next m hdecode =>
    split at h
    · next himports =>
      cases h
      exact ⟨hdecode, himports⟩
    · cases h

/-! ## Parts keep their types -/

section

variable {s s' : Store guests}

theorem keeps_offering (s : Store guests) (logger : Logger)
    (functions : List ((String × String) × HostFunction)) :
    s.Keeps (offering s logger functions) where
  functions _ _ hf := Wasm.getElem?_append_of_some hf
  tables _ t ht := ⟨t, ht, rfl⟩
  memories _ m hm := ⟨m, hm, .refl m⟩
  globals _ g hg := ⟨g, hg, rfl⟩

theorem keeps_entered (s : Store guests) (module : String) (place : Nat) :
    s.Keeps (entered s module place) where
  functions _ _ hf := hf
  tables _ t ht := ⟨t, ht, rfl⟩
  memories _ m hm := ⟨m, hm, .refl m⟩
  globals _ g hg := ⟨g, hg, rfl⟩

theorem Evolves.keeps (h : Evolves s s')
    (globals : s'.globals.map (·.type) = s.globals.map (·.type)) : s.Keeps s' where
  functions _ _ hf := by rwa [h.functions]
  tables _ t ht := ⟨t, by rwa [h.tables], rfl⟩
  memories := h.memories
  globals place g hg := by
    have htype : (s'.globals.map (·.type))[place]? = some g.type := by
      rw [globals, List.getElem?_map, hg, Option.map_some]
    rw [List.getElem?_map] at htype
    exact Option.map_eq_some_iff.1 htype

variable {regime : Regime} {m : Module} {parts : List Extern} {place : Nat}

theorem keeps_of_instantiate (wired : Wired (m.allocate parts s))
    (h : m.instantiate hostFunctions regime parts s = .value place s') :
    (m.allocate parts s).Keeps s' :=
  (wired.evolves_of_instantiate h).keeps (globals_of_instantiate h)

theorem typed_of_instantiate (valid : m.isValid) (whole : m.Whole)
    {resolve : Wasm.Import → Option Extern} (hlink : m.link? s resolve = some parts)
    (wired : Wired (m.allocate parts s))
    (h : m.instantiate hostFunctions regime parts s = .value place s') :
    s'.instances[s.instances.length]? = some (m.newInstance s parts) ∧
      (m.newInstance s parts).Typed m s' := by
  refine ⟨?_, (Module.typed_newInstance valid whole hlink).keep (keeps_of_instantiate wired h)⟩
  rw [(wired.evolves_of_instantiate h).instances]
  exact List.getElem?_concat_length

end

/-! ## Stages of a registration -/

/-- The instance at a place is that of a module and exports what the module says. -/
def Exports (s : Store guests) (place : Nat) (m : Module) : Prop :=
  ∃ inst, s.instances[place]? = some inst ∧ inst.Typed m s

theorem Exports.keep {s s' : Store guests} {place : Nat} {m : Module} (h : Exports s place m)
    (hs : s.Keeps s') (instances : s.instances <+: s'.instances) : Exports s' place m := by
  obtain ⟨inst, hinst, typed⟩ := h
  obtain ⟨more, hmore⟩ := instances
  exact ⟨inst, hmore ▸ Wasm.getElem?_append_of_some hinst, typed.keep hs⟩

namespace Composed

variable {regime : Regime} {control : Module} {d : ServiceDescriptor} {sink : Sink}
  {done : List ModuleDescriptor} {s : Store guests} {earlier : RegisteredModules}

/-- **At every stage the instances export what their files say**: the first that of the control
module, the others those of the modules. -/
theorem typed (h : Composed regime control d sink done s earlier) (valid : control.isValid)
    (whole : control.Whole) (bare : control.imports = []) :
    Exports s 0 control ∧ ∀ (position : Nat) md m, done[position]? = some md →
      Module.decode? md.bytes.bytes = some m → Exports s (position + 1) m := by
  induction h with
  | control ready =>
    have wired : Wired (control.allocate [] (Service.freshStore d sink)) :=
      Wired.allocate (fun _ _ ⟨_, held⟩ => nomatch held) control []
    have hlink : control.link? (Service.freshStore d sink) (fun _ => none) = some [] := by
      rw [Module.link?, bare]
      rfl
    refine ⟨⟨_, typed_of_instantiate valid whole hlink wired ready⟩, fun position md m hmd => ?_⟩
    cases hmd
  | @module done s s' earlier md entry before added ih =>
    obtain ⟨first, others⟩ := ih
    obtain ⟨m, s₂, parts, a, hdecode, -, hchecks, -, hlink, hinstantiate, -, rfl⟩ :=
      addModule_gives.1 added
    have wired := (before.sound.wired_offering hchecks (md.logger d.serviceId)
      s.data.loggers.length).allocate m parts
    -- functions are offered, the module is allocated, it starts, its name is entered
    have enter := keeps_entered s₂ md.importName entry.place
    have keeps : s.Keeps (entered s₂ md.importName entry.place) :=
      (((keeps_offering s _ _).trans (Wasm.keeps_allocate m parts _)).trans
        (keeps_of_instantiate wired hinstantiate)).trans enter
    have instances : s.instances <+: s₂.instances :=
      ((extends_linked s _ _ m parts).trans
        (wired.evolves_of_instantiate hinstantiate).toExtends).instances
    refine ⟨first.keep keeps instances, fun position md' m' hmd' hdecode' => ?_⟩
    rcases Wasm.getElem?_concat_cases hmd' with hold | ⟨rfl, rfl⟩
    · exact (others position md' m' hold hdecode').keep keeps instances
    · obtain rfl : m = m' := Option.some.inj (hdecode.symm.trans hdecode')
      obtain ⟨hinst, typed⟩ := typed_of_instantiate (Wasm.Module.valid_of_decode? hdecode)
        (Wasm.Module.whole_of_decode? hdecode) hlink wired hinstantiate
      rw [← (before.laid whole).count]
      exact ⟨_, hinst, typed.keep enter⟩

end Composed

end ModuleHost
