import Mathlib.Data.BitVec

/-!
# Distances in two's complement

The distance of two readings of a signed register of `w` bits, computed as
the absolute value of their difference.  Where the arithmetic wraps, the
readings lie on a circle of `2 ^ w` points and the result is the shorter way
around it.  For opposite points it is the least number of the register, since
half of the circle is not representable.
-/

namespace WrappingDistance

section Circle

variable {diff : ℤ} {half : ℕ}

/-- The balanced residue measures the shorter way around the circle. -/
theorem natAbs_bmod (hhalf : 0 < half) (hdiff : diff.natAbs ≤ 2 * half) :
    (diff.bmod (2 * half)).natAbs =
      min diff.natAbs (2 * half - diff.natAbs) := by
  by_cases hbelow : diff < -half
  · have hresidue : diff.bmod (2 * half) = diff + (2 * half : ℕ) := by
      rw [← Int.add_bmod_right, Int.bmod_eq_of_le_mul_two] <;> omega
    rw [hresidue]
    omega
  · by_cases habove : half ≤ diff
    · have hresidue : diff.bmod (2 * half) = diff - (2 * half : ℕ) := by
        rw [← Int.sub_bmod_right, Int.bmod_eq_of_le_mul_two] <;> omega
      rw [hresidue]
      omega
    · rw [Int.bmod_eq_of_le_mul_two] <;> omega

/-- Only opposite points have the least residue. -/
theorem bmod_eq_neg_half_iff
    (hhalf : 0 < half) (hdiff : diff.natAbs ≤ 2 * half) :
    diff.bmod (2 * half) = -half ↔ diff.natAbs = half := by
  have hshorter := natAbs_bmod hhalf hdiff
  have hlt := Int.bmod_lt (x := diff) (show 0 < 2 * half by omega)
  omega

end Circle

/-! ## Readings of a register -/

section Register

variable {w : ℕ}

def distance (now stamp : BitVec w) : ℕ :=
  (now.toInt - stamp.toInt).natAbs

/-- `(now - stamp).abs()` in arithmetic that wraps. -/
def wrappingAge (now stamp : BitVec w) : BitVec w := (now - stamp).abs

/-- The subtraction or the absolute value leaves the register. -/
def Overflows (now stamp : BitVec w) : Prop :=
  now.ssubOverflow stamp = true ∨ (now - stamp).negOverflow = true

variable (now stamp : BitVec w)

theorem distance_lt : distance now stamp < 2 ^ w := by
  have hnow := now.le_two_mul_toInt
  have hnowLt := now.two_mul_toInt_lt
  have hstamp := stamp.le_two_mul_toInt
  have hstampLt := stamp.two_mul_toInt_lt
  have hpow : ((2 ^ w : ℕ) : ℤ) = 2 ^ w := Int.natCast_pow 2 w
  unfold distance
  omega

/-- The shorter way around the circle, except between opposite points. -/
theorem toInt_wrappingAge :
    (wrappingAge now stamp).toInt =
      if distance now stamp = 2 ^ (w - 1) then -((2 ^ (w - 1) : ℕ) : ℤ)
      else (min (distance now stamp) (2 ^ w - distance now stamp) : ℕ) := by
  cases w with
  | zero => simp [wrappingAge, distance, BitVec.of_length_zero]
  | succ w =>
      have hcircle : 2 ^ (w + 1) = 2 * 2 ^ w := Nat.pow_succ'
      have hhalf : 0 < 2 ^ w := Nat.two_pow_pos w
      have hlt := distance_lt now stamp
      rw [hcircle] at hlt
      have hdiff : (now - stamp).toInt =
          (now.toInt - stamp.toInt).bmod (2 * 2 ^ w) := by
        rw [BitVec.toInt_sub, hcircle]
      have hleast : (BitVec.intMin (w + 1)).toInt = -((2 ^ w : ℕ) : ℤ) := by
        rw [BitVec.toInt_intMin, Nat.add_sub_cancel,
          Nat.mod_eq_of_lt (by omega)]
      have hopposite : now - stamp = BitVec.intMin (w + 1) ↔
          distance now stamp = 2 ^ w := by
        rw [← BitVec.toInt_inj, hdiff, hleast]
        exact bmod_eq_neg_half_iff hhalf hlt.le
      rw [wrappingAge, BitVec.toInt_abs_eq_natAbs, hleast, hdiff,
        natAbs_bmod hhalf hlt.le, Nat.add_sub_cancel, hcircle]
      simp only [hopposite]
      rfl

/-- A window accepts what lies in it, the opposite point, and what lies in it
the other way around. -/
theorem wrappingAge_le_iff (window : ℕ) :
    (wrappingAge now stamp).toInt ≤ window ↔
      distance now stamp ≤ window ∨ distance now stamp = 2 ^ (w - 1) ∨
        2 ^ w ≤ distance now stamp + window := by
  have hlt := distance_lt now stamp
  rw [toInt_wrappingAge]
  split <;> omega

theorem two_pow_eq (w : ℕ) : w = 0 ∨ 2 ^ w = 2 * 2 ^ (w - 1) := by
  cases w with
  | zero => exact Or.inl rfl
  | succ w => exact Or.inr Nat.pow_succ'

/-- Where a window of less than half of the circle is exact. -/
theorem wrappingAge_exact_iff {window : ℕ} (hwindow : 2 * window < 2 ^ w) :
    ((wrappingAge now stamp).toInt ≤ window ↔
        distance now stamp ≤ window) ↔
      distance now stamp ≠ 2 ^ (w - 1) ∧
        distance now stamp + window < 2 ^ w := by
  rw [wrappingAge_le_iff]
  rcases two_pow_eq w with rfl | hcircle
  · omega
  · omega

theorem not_overflows_iff :
    ¬ Overflows now stamp ↔ distance now stamp < 2 ^ (w - 1) := by
  have hpow : ((2 ^ (w - 1) : ℕ) : ℤ) = 2 ^ (w - 1) := Int.natCast_pow 2 _
  by_cases hsub : now.ssubOverflow stamp = true
  · refine iff_of_false (fun hno => hno (Or.inl hsub)) ?_
    simp only [BitVec.ssubOverflow, Bool.or_eq_true, decide_eq_true_eq] at hsub
    unfold distance
    omega
  · have hdiff := BitVec.toInt_sub_of_not_ssubOverflow hsub
    simp only [Overflows, hsub, Bool.false_eq_true, false_or,
      BitVec.negOverflow, hdiff, beq_iff_eq]
    simp only [BitVec.ssubOverflow, Bool.or_eq_true, decide_eq_true_eq] at hsub
    unfold distance
    omega

end Register

end WrappingDistance
