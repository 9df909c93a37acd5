import Mathlib.Algebra.Order.Field.Power
import Mathlib.Algebra.Order.Field.Rat
import Mathlib.Algebra.Order.Ring.Cast
import Mathlib.Tactic.NormNum
import TypedSql.Number.Decimal.Binary

namespace TypedSql.Number

namespace Binary

def significand : Binary → Nat
  | finite _ significand _ => significand
  | nan | infinite _ => 0

/-- Whether the magnitude is the bound or more. -/
def Reaches (bound : Nat) : Binary → Prop
  | nan => False
  | infinite _ => True
  | finite _ significand exponent => (bound : ℚ) ≤ significand * 2 ^ exponent

theorem Format.significand_read_lt (format : Format) (bits : Nat) :
    (format.read bits).significand < 2 * twoTo format.fractionBits := by
  have positive : 0 < twoTo format.fractionBits := Nat.two_pow_pos _
  have fraction := Nat.mod_lt bits positive
  unfold read
  dsimp only
  split
  · split <;> simpa [significand] using positive
  · split
    · simp only [significand]
      omega
    · simp only [significand]
      omega

end Binary

namespace Decimal

variable {coefficient : Nat}

theorem absorbFives_le (fives : Nat) (ten : Int) (fits : coefficient < limit) :
    (absorbFives fives coefficient ten).1 < limit ∧
      (absorbFives fives coefficient ten).2 ≤ ten + fives := by
  induction fives generalizing coefficient ten with
  | zero => exact ⟨fits, by simp [absorbFives]⟩
  | succ fives ih =>
    rw [absorbFives]
    split
    · rename_i room
      obtain ⟨below, least⟩ := ih ten room.2
      exact ⟨below, by omega⟩
    · obtain ⟨below, least⟩ := ih (ten + 1) (show coefficient / 2 < limit by omega)
      exact ⟨below, by omega⟩

/-- As many fives as tens are removed by doubling alone. -/
theorem removeFives?_eq (fives : Nat) (fits : coefficient < limit) :
    removeFives? fives coefficient fives =
      if coefficient * 2 ^ fives < limit then some (coefficient * 2 ^ fives, 0) else none := by
  induction fives generalizing coefficient with
  | zero => simp [removeFives?, fits]
  | succ fives ih =>
    have twice : coefficient * 2 ^ (fives + 1) = 2 * coefficient * 2 ^ fives := by
      rw [Nat.pow_succ]
      ac_rfl
    rw [removeFives?, twice]
    split
    · rename_i room
      have fitsTwice : 2 * coefficient < limit := by
        unfold limit
        omega
      simpa using ih fitsTwice
    · rename_i full
      -- With as many tens as fives there are always too many tens, so nothing is divided by five.
      have beyond : ¬2 * coefficient * 2 ^ fives < limit := by
        have positive := Nat.two_pow_pos fives
        have := Nat.le_mul_of_pos_right (2 * coefficient) positive
        unfold limit
        omega
      rw [if_pos (by omega), if_neg beyond]

theorem coarsen_le (fuel scale : Nat) (fits : coefficient < limit) (enough : scale ≤ fuel + 28) :
    (coarsen fuel coefficient scale).1 < limit ∧ (coarsen fuel coefficient scale).2 ≤ 28 := by
  induction fuel generalizing coefficient scale with
  | zero => exact ⟨fits, by simpa [coarsen] using enough⟩
  | succ fuel ih =>
    rw [coarsen]
    split
    · exact ⟨fits, by assumption⟩
    · dsimp only
      split
      · exact ⟨by decide, by decide⟩
      · refine ih (scale - 1) ?_ (by omega)
        split <;> omega

theorem trim_le (bound scale : Nat) (fits : coefficient < limit) :
    (trim bound coefficient scale).1 < limit ∧ (trim bound coefficient scale).2 ≤ scale := by
  induction scale generalizing coefficient with
  | zero => exact ⟨fits, le_rfl⟩
  | succ scale ih =>
    rw [trim]
    split
    · have shorter : (coefficient + 5) / 10 < limit := by
        unfold limit at *
        omega
      obtain ⟨below, least⟩ := ih shorter
      exact ⟨below, by omega⟩
    · exact ⟨fits, le_rfl⟩

theorem stripZeros_le (scale : Nat) (fits : coefficient < limit) :
    (stripZeros coefficient scale).1 < limit ∧ (stripZeros coefficient scale).2 ≤ scale := by
  induction scale generalizing coefficient with
  | zero => exact ⟨fits, le_rfl⟩
  | succ scale ih =>
    rw [stripZeros]
    split
    · have shorter : coefficient / 10 < limit := by omega
      obtain ⟨below, least⟩ := ih shorter
      exact ⟨below, by omega⟩
    · exact ⟨fits, le_rfl⟩

section

variable (bound : Nat) (negative : Bool)

theorem exists_ofScaled? {ten : Int} (fits : coefficient < limit) (low : ten ≤ 0) :
    ∃ decimal, ofScaled? bound negative coefficient ten = some decimal := by
  have upward : scaleUp? ten.toNat coefficient = some coefficient := by
    simp [scaleUp?, Int.toNat_of_nonpos low, tenTo, fits]
  obtain ⟨coarse, coarseScale⟩ := coarsen_le (-ten).toNat (-ten).toNat fits (by omega)
  obtain ⟨trimmed, trimmedScale⟩ := trim_le bound _ coarse
  obtain ⟨stripped, strippedScale⟩ := stripZeros_le _ trimmed
  rw [ofScaled?, upward]
  exact ⟨_, dif_pos ⟨stripped, by omega⟩⟩

theorem exists_ofBinary?_of_fraction {significand : Nat} {exponent : Int}
    (fits : significand < limit) (fraction : exponent < 0) :
    ∃ decimal, ofBinary? bound (.finite negative significand exponent) = some decimal := by
  obtain ⟨below, least⟩ := absorbFives_le exponent.natAbs exponent fits
  have low : (absorbFives exponent.natAbs significand exponent).2 ≤ 0 := by omega
  rw [ofBinary?, if_pos fraction]
  split
  · exact ⟨_, rfl⟩
  · exact exists_ofScaled? bound negative below low

theorem ofBinary?_of_whole {significand : Nat} (power : Nat) (fits : significand < limit) :
    ofBinary? bound (.finite negative significand power) = none ↔
      limit ≤ significand * 2 ^ power := by
  have whole : ¬(power : Int) < 0 := by omega
  rw [ofBinary?, if_neg whole, Int.natAbs_natCast, removeFives?_eq power fits, ← not_lt]
  by_cases below : significand * 2 ^ power < limit
  · obtain ⟨decimal, scaled⟩ := exists_ofScaled? bound negative below le_rfl
    by_cases zero : significand = 0
    · simp [zero, limit]
    · simp [zero, below, scaled]
  · have nonzero : significand ≠ 0 := by
      rintro rfl
      simp [limit] at below
    simp [nonzero, below]

end

/-- A binary number is no decimal if it is not finite or its magnitude is too large. -/
theorem ofBinary?_eq_none_iff {bound : Nat} {binary : Binary}
    (narrow : binary.significand < limit) :
    ofBinary? bound binary = none ↔ binary = .nan ∨ binary.Reaches limit := by
  cases binary with
  | nan => simp [ofBinary?]
  | infinite => simp [ofBinary?, Binary.Reaches]
  | finite negative significand exponent =>
    change significand < limit at narrow
    by_cases fraction : exponent < 0
    · obtain ⟨decimal, made⟩ := exists_ofBinary?_of_fraction bound negative narrow fraction
      have shrinks : (2 : ℚ) ^ exponent ≤ 1 := zpow_le_one_of_nonpos₀ (by norm_num) fraction.le
      have smaller : (significand : ℚ) * 2 ^ exponent < limit :=
        (mul_le_of_le_one_right (Nat.cast_nonneg _) shrinks).trans_lt (Nat.cast_lt.mpr narrow)
      simpa [made, Binary.Reaches] using smaller
    · obtain ⟨power, rfl⟩ := Int.eq_ofNat_of_zero_le (not_lt.mp fraction)
      rw [ofBinary?_of_whole bound negative power narrow]
      simp only [reduceCtorEq, false_or, Binary.Reaches, zpow_natCast]
      exact_mod_cast Iff.rfl

/-- At 2 ^ 96 one ten is left over. The number is refused there, not divided. -/
example : removeFives? 44 0x10000000000000 44 = none ∧
    scaleUp? 1 (0x800000000000000000000000 / 5) = some 79228162514264337593543950330 := by
  decide

theorem ofBinary?_read_eq_none_iff (bound : Nat) (format : Binary.Format) (bits : Nat)
    (narrow : 2 * twoTo format.fractionBits ≤ limit) :
    ofBinary? bound (format.read bits) = none ↔
      format.read bits = .nan ∨ (format.read bits).Reaches limit :=
  ofBinary?_eq_none_iff ((format.significand_read_lt bits).trans_le narrow)

end Decimal

end TypedSql.Number
