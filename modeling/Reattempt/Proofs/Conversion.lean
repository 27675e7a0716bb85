import Mathlib
import Reattempt.Number

/-!
# How large a whole number may be

The greatest binary numbers are a spacing apart, and the next after them would be the first that is out of range. A
whole number is converted as long as it is nearer to the greatest of them than to that next one. Halfway between the
two it is not: the tie goes to the even neighbour, which is the one that does not exist.
-/
namespace Reattempt

namespace Binary64

section Nearest

variable {a b k : Nat}

theorem div_le_nearest (a b : Nat) : a / b ≤ nearest a b := by
  simp only [nearest]
  split
  · exact le_rfl
  · split <;> omega

theorem nearest_le_succ (a b : Nat) : nearest a b ≤ a / b + 1 := by
  simp only [nearest]
  split
  · omega
  · split <;> omega

/-- An odd number is passed from halfway to the next one on. -/
theorem lt_nearest_iff (hb : 0 < b) (hk : k % 2 = 1) : k < nearest a b ↔ 2 * (b * k) + b ≤ 2 * a := by
  have ha : b * (a / b) + a % b = a := Nat.div_add_mod a b
  have hr : a % b < b := Nat.mod_lt a hb
  rcases lt_trichotomy (a / b) k with hlt | heq | hgt
  · have hmul : b * (a / b) + b ≤ b * k := Nat.mul_le_mul_left b hlt
    have hnearest : nearest a b ≤ k := (nearest_le_succ a b).trans hlt
    exact iff_of_false (not_lt.mpr hnearest) (by omega)
  · -- Halfway to the next the tie goes up, as `k` is odd.
    subst heq
    simp only [nearest, hk]
    split
    · omega
    · split <;> omega
  · have hmul : b * k + b ≤ b * (a / b) := Nat.mul_le_mul_left b hgt
    exact iff_of_true (hgt.trans_le (div_le_nearest a b)) (by omega)

end Nearest

/-! ## Rounding to 53 digits -/

section Rounded

variable {n : Nat}

theorem spacing_pos (n : Nat) : 0 < spacing n := Nat.two_pow_pos _

/-- From `2 ^ 52` on the leading power of two is `2 ^ 52` spacings. -/
theorem two_pow_log2 (h : 52 ≤ n.log2) : 2 ^ n.log2 = 2 ^ 52 * spacing n := by
  have hadd : n.log2 = 52 + (n.log2 - 52) := by omega
  rw [spacing, Nat.pow_eq, ← pow_add, ← hadd]

theorem rounded_le (n : Nat) : nearest n (spacing n) * spacing n ≤ n + spacing n := by
  have hdiv : n / spacing n * spacing n ≤ n := Nat.div_mul_le_self n (spacing n)
  have hsucc := Nat.mul_le_mul_right (spacing n) (nearest_le_succ n (spacing n))
  rw [Nat.succ_mul] at hsucc
  omega

/-- Rounding does not go below the leading power of two. -/
theorem two_pow_log2_le_rounded (h : 52 ≤ n.log2) : 2 ^ n.log2 ≤ nearest n (spacing n) * spacing n := by
  have hn : 2 ^ n.log2 ≤ n := Nat.log2_self_le (by rintro rfl; simp at h)
  have hsteps := two_pow_log2 h
  rw [hsteps] at hn ⊢
  have hdiv : 2 ^ 52 ≤ n / spacing n := (Nat.le_div_iff_mul_le (spacing_pos n)).mpr hn
  exact Nat.mul_le_mul_right _ (hdiv.trans (div_le_nearest n (spacing n)))

/-- A rounded number is below a power of two if the number is below it by more than half the spacing there. -/
theorem rounded_lt_iff (e n : Nat) :
    nearest n (spacing n) * spacing n < 2 ^ (e + 54) ↔ n + 2 ^ e < 2 ^ (e + 54) := by
  have hpow : 2 ^ (e + 54) = 2 ^ 54 * 2 ^ e := by rw [pow_add, mul_comm]
  rcases lt_trichotomy n.log2 (e + 53) with hlt | heq | hgt
  · have hn : n < 2 ^ (e + 53) := Nat.lt_log2_self.trans_le (Nat.pow_le_pow_right (by omega) hlt)
    have hs : spacing n ≤ 2 ^ e := Nat.pow_le_pow_right (by omega) (by omega)
    have hrounded := rounded_le n
    rw [pow_add] at hn
    exact iff_of_true (by omega) (by omega)
  · -- The power of two is `2 ^ 53` spacings, and the count before that is odd.
    have hs : spacing n = 2 * 2 ^ e := by
      have hsteps := two_pow_log2 (n := n) (by omega)
      rw [heq, pow_add] at hsteps
      omega
    have hcount : nearest n (spacing n) * spacing n < 2 ^ (e + 54) ↔ nearest n (spacing n) < 2 ^ 53 := by
      have hsteps : 2 ^ (e + 54) = 2 ^ 53 * spacing n := by omega
      rw [hsteps]
      exact Nat.mul_lt_mul_right (spacing_pos n)
    have hodd := lt_nearest_iff (a := n) (k := 2 ^ 53 - 1) (spacing_pos n) (by norm_num)
    rw [hcount]
    rw [hs] at hodd ⊢
    omega
  · have hn : 2 ^ n.log2 ≤ n := Nat.log2_self_le (by rintro rfl; simp at hgt)
    have hlarge : 2 ^ (e + 54) ≤ 2 ^ n.log2 := Nat.pow_le_pow_right (by omega) hgt
    have hrounded := two_pow_log2_le_rounded (n := n) (by omega)
    exact iff_of_false (by omega) (by omega)

end Rounded

/-- The least magnitude of a whole number for which the nearest binary number is not finite. -/
def wholeLimit : Nat := Nat.pow 2 1024 - Nat.pow 2 970

theorem isFinite_ofUnits (negative : Bool) (n : Nat) :
    (ofUnits negative n 1).isFinite ↔ n < wholeLimit * unitsPerOne := by
  have hoverflow : overflow = 2 ^ (2044 + 54) := by decide +kernel
  have hlimit : 2 ^ (2044 + 54) = wholeLimit * unitsPerOne + 2 ^ 2044 := by decide +kernel
  have hround := rounded_lt_iff 2044 n
  rw [hlimit, Nat.add_lt_add_iff_right, ← hlimit, ← hoverflow] at hround
  simp only [ofUnits, Nat.div_one, Nat.one_mul]
  by_cases hn : nearest n (spacing n) * spacing n < overflow
  · rw [if_pos hn]
    exact iff_of_true rfl (hround.mp hn)
  · rw [if_neg hn]
    exact iff_of_false nofun (mt hround.mpr hn)

theorem isFinite_ofInt (i : Int) : (ofInt i).isFinite ↔ i.natAbs < wholeLimit := by
  have hunits : 0 < unitsPerOne := by decide +kernel
  rw [ofInt, ofRatio, isFinite_ofUnits, Nat.mul_lt_mul_right hunits]

end Binary64

namespace Number

/-- The range of whole numbers that can be converted; any other number can. -/
theorem convertible_iff (n : Number) : n.convertible ↔ ∀ i ∈ n.int?, i.natAbs < Binary64.wholeLimit := by
  cases n with
  | real x => exact iff_of_true rfl nofun
  | whole i => simp [convertible, int?, toBinary, Binary64.isFinite_ofInt]
  | flag b => simp [convertible, int?, toBinary, Binary64.isFinite_ofInt]

end Number

end Reattempt
