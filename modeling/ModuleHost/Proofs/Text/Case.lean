import Mathlib
import ModuleHost.Proofs.Text.Pieces

/-!
# Letter case

Only the letters of ASCII have a case, and none of them is white space.

* `toLower_eq_iff`: no other character comes from or becomes one by a change of case;
* `mem_of_cased`, `eq_of_cased` — texts that differ in letter case only;
* `trim_map_toLower`: the white space around a text is the same in any case.
-/

namespace ModuleHost.Text

variable {cs cs' : List Char} {c d : Char}

theorem isAlpha_bounds (h : c.isAlpha) : 65 ≤ c.toNat ∧ c.toNat ≤ 122 := by
  simp only [Char.isAlpha, Char.isUpper, Char.isLower, UInt32.le_iff_toNat_le, ge_iff_le,
    Bool.or_eq_true, decide_eq_true_eq, Bool.and_eq_true] at h
  simp only [Char.toNat, UInt32.reduceToNat, Char.reduceVal] at h ⊢
  omega

theorem not_isAlpha_of_isDigit (h : c.isDigit) : ¬c.isAlpha := by
  intro halpha
  have hletter : 65 ≤ c.toNat := (isAlpha_bounds halpha).1
  have hdigit : c.toNat ≤ 57 := (Char.isDigit_iff_toNat.1 h).2
  omega

theorem not_isBlank_of_isDigit (h : c.isDigit) : ¬isBlank c := by
  obtain ⟨hle, hge⟩ : 48 ≤ c.toNat ∧ c.toNat ≤ 57 := Char.isDigit_iff_toNat.1 h
  exact not_isBlank_of_visible (by omega) (by omega)

theorem not_isBlank_of_isAlpha (h : c.isAlpha) : ¬isBlank c := by
  obtain ⟨hle, hge⟩ := isAlpha_bounds h
  exact not_isBlank_of_visible (by omega) (by omega)

/-- Only letters have a case. -/
theorem toLower_eq_iff (hd : ¬d.isAlpha) : c.toLower = d ↔ c = d := by
  have hsame : ∀ c : Char, ¬c.isAlpha → c.toLower = c := fun c hc =>
    Char.toLower_eq_of_not_isUpper fun hupper => hc (by simp [Char.isAlpha, hupper])
  constructor
  · rintro rfl
    rw [Char.isAlpha_toLower_eq_isAlpha] at hd
    exact (hsame c hd).symm
  · rintro rfl
    exact hsame c hd

theorem mem_of_cased (h : cs'.map Char.toLower = cs.map Char.toLower) (hd : ¬d.isAlpha)
    (hmem : d ∈ cs') : d ∈ cs := by
  have hlower : d.toLower ∈ cs.map Char.toLower := h ▸ List.mem_map_of_mem hmem
  rw [(toLower_eq_iff hd).2 rfl] at hlower
  obtain ⟨c, hc, heq⟩ := List.mem_map.1 hlower
  rwa [(toLower_eq_iff hd).1 heq] at hc

theorem eq_of_cased (h : cs'.map Char.toLower = cs.map Char.toLower)
    (hcs : ∀ c ∈ cs, ¬c.isAlpha) : cs' = cs := by
  induction cs generalizing cs' with
  | nil => exact List.map_eq_nil_iff.1 h
  | cons c cs ih =>
    obtain ⟨hc, hcs⟩ := List.forall_mem_cons.1 hcs
    obtain ⟨c', cs', rfl, hhead, htail⟩ := List.map_eq_cons_iff.1 h
    rw [(toLower_eq_iff hc).2 rfl, toLower_eq_iff hc] at hhead
    rw [hhead, ih htail hcs]

theorem isBlank_toLower (c : Char) : isBlank c.toLower = isBlank c := by
  by_cases hc : c.isAlpha
  · have hlower : c.toLower.isAlpha := by rwa [Char.isAlpha_toLower_eq_isAlpha]
    rw [Bool.eq_iff_iff]
    exact iff_of_false (not_isBlank_of_isAlpha hlower) (not_isBlank_of_isAlpha hc)
  · rw [(toLower_eq_iff hc).2 rfl]

theorem trim_map_toLower (cs : List Char) :
    trim (cs.map Char.toLower) = (trim cs).map Char.toLower := by
  have hblank : isBlank ∘ Char.toLower = isBlank := funext isBlank_toLower
  simp only [trim, List.dropWhile_map, hblank, ← List.map_reverse]

end ModuleHost.Text
