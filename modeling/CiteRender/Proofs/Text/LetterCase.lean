import CiteRender.Text.Blank
import Mathlib

/-!
# Letter Case

A lowered text has no capitals, and a text without capitals is lowered to
itself.

## Theorems

* `isUpper_of_mem_lower`: What a lowered text has no more.
* `lower_eq_self`: What lowering does not change.
* `isDigit_of_isAlpha`: No letter is a digit.
-/

namespace CiteRender

namespace Text

theorem isUpper_of_mem_lower (w : List Char) (c : Char) (hc : c ∈ lower w) :
    c.isUpper = false := by
  rcases List.mem_map.mp hc with ⟨d, -, rfl⟩
  exact d.isUpper_toLower_eq_false

theorem lower_eq_self (w : List Char) (hw : ∀ c ∈ w, c.isUpper = false) : lower w = w := by
  induction w with
  | nil => rfl
  | cons c w ih =>
      rw [List.forall_mem_cons] at hw
      rw [lower, List.map_cons, Char.toLower_eq_of_not_isUpper (by simp [hw.1]), ← lower, ih hw.2]

/-- No letter is a digit. -/
theorem isDigit_of_isAlpha (c : Char) (hc : c.isAlpha = true) : c.isDigit = false := by
  simp only [Char.isAlpha, Char.isUpper, Char.isLower, Bool.or_eq_true, Bool.and_eq_true,
    decide_eq_true_eq, ge_iff_le, UInt32.le_iff_toNat_le, Char.reduceVal, UInt32.reduceToNat] at hc
  by_contra hdigit
  simp only [Char.isDigit, Bool.not_eq_false, Bool.and_eq_true, decide_eq_true_eq, ge_iff_le,
    UInt32.le_iff_toNat_le, Char.reduceVal, UInt32.reduceToNat] at hdigit
  omega

end Text

end CiteRender
