import Reattempt.Number

/-!
# Comparing numbers

Numbers are compared by the place where they lie, and a not-a-number lies nowhere. So what is not above another number
is at or below it, unless one of the two is a not-a-number. A whole number lies where the number that it is equal to
does, of whatever kind.
-/
namespace Reattempt.Number

variable {a b : Number}

/-- A number that is not above another is at or below it, unless one of them lies nowhere. -/
theorem le_iff_of_not_lt (h : ¬ b < a) : a ≤ b ↔ a.extent?.isSome ∧ b.extent?.isSome := by
  change ¬ b.lt a = true at h
  change a.le b = true ↔ _
  simp only [lt] at h
  simp only [le, Extent.le]
  cases ha : a.extent? <;> cases hb : b.extent? <;> simp_all

theorem extent?_isSome : a.extent?.isSome ↔ a ≠ .real .nan := by
  cases a with
  | real x => rw [extent?, Binary64.extent?_isSome, ne_eq, ne_eq, real.injEq]
  | flag b => exact ⟨fun _ => by simp, fun _ => rfl⟩
  | whole i => exact ⟨fun _ => by simp, fun _ => rfl⟩

/-- What is not positive is zero or below, if it is a number. -/
theorem le_zero_iff_of_not_pos (h : ¬ 0 < a) : a ≤ 0 ↔ a ≠ .real .nan := by
  rw [le_iff_of_not_lt h, extent?_isSome]
  exact and_iff_left rfl

theorem not_lt_of_le (h : a ≤ b) : ¬ b < a := by
  change a.le b = true at h
  show ¬ b.lt a = true
  simp only [le, Extent.le] at h
  simp only [lt]
  cases ha : a.extent? <;> cases hb : b.extent? <;> simp_all

theorem ne_nan_of_isFinite (h : a.isFinite) : a ≠ .real .nan := by
  rintro rfl
  cases h

/-- Finite numbers are in order. -/
theorem not_lt_iff_of_isFinite (ha : a.isFinite) (hb : b.isFinite) : ¬ b < a ↔ a ≤ b :=
  ⟨fun h => (le_iff_of_not_lt h).mpr ⟨extent?_isSome.mpr (ne_nan_of_isFinite ha),
    extent?_isSome.mpr (ne_nan_of_isFinite hb)⟩, not_lt_of_le⟩

theorem le_refl_of_isFinite (h : a.isFinite) : a ≤ a := (not_lt_iff_of_isFinite h h).mp (lt_irrefl a)

theorem convertible_of_isFinite (h : a.isFinite) : a.convertible := by
  have h' : a.toBinary.isFinite = true := h
  simp only [convertible, h', Bool.or_true]

/-- A number that is whole lies where that whole number does. -/
theorem extent?_of_int? {t : Int} (h : a.int? = some t) : a.extent? = (whole t).extent? := by
  cases a with
  | real x => cases h
  | flag b => cases h; rfl
  | whole i => cases h; rfl

theorem whole_lt_iff_of_int? {i t : Int} (h : a.int? = some t) : (.whole i : Number) < a ↔ i < t := by
  rw [← whole_lt_whole]
  show (whole i).lt a = true ↔ (whole i).lt (whole t) = true
  simp only [lt, extent?_of_int? h]

end Reattempt.Number
