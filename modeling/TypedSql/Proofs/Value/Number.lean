import Mathlib.Algebra.Order.Ring.Cast
import Mathlib.Algebra.Order.Field.Rat
import Mathlib.Algebra.Order.GroupWithZero.Basic
import Mathlib.Tactic.NormNum
import Mathlib.Tactic.Positivity
import TypedSql.Value.Order

namespace TypedSql

theorem compare_natCast (a b : Nat) : compare (a : ℚ) b = compare a b := by
  rw [← cmp_eq_compare, Nat.strictMono_cast.cmp_map_eq, cmp_eq_compare]

theorem compare_intCast (a b : Int) : compare (a : ℚ) b = compare a b := by
  rw [← cmp_eq_compare, Int.cast_strictMono.cmp_map_eq, cmp_eq_compare]

namespace Number.Decimal

def toRat (value : Decimal) : ℚ :=
  value.signed / 10 ^ value.scale

theorem toRat_ofInt64 (value : Int64) : (ofInt64 value).toRat = value.toInt := by
  have signed : (ofInt64 value).signed = value.toInt := by
    simp only [Decimal.signed, ofInt64, decide_eq_true_eq]
    omega
  rw [toRat, signed]
  exact div_one _

theorem units_eq (value : Decimal) : (value.units : ℚ) = value.toRat * 10 ^ 28 := by
  have finest : (10 : ℚ) ^ 28 = 10 ^ value.scale * 10 ^ (28 - value.scale) := by
    rw [← pow_add, Nat.add_sub_cancel' value.scale_le]
  have nonzero : (10 : ℚ) ^ value.scale ≠ 0 := by positivity
  rw [toRat, finest, ← mul_assoc, div_mul_cancel₀ _ nonzero]
  simp [units, tenTo]

/-- Decimals are compared as the numbers they are, whatever their scales. -/
theorem compare_eq (left right : Decimal) :
    left.compare right = Ord.compare left.toRat right.toRat := by
  have widening : StrictMono fun number : ℚ => number * 10 ^ 28 :=
    fun _ _ less => mul_lt_mul_of_pos_right less (by positivity)
  calc
    left.compare right = Ord.compare (left.units : ℚ) right.units := (compare_intCast _ _).symm
    _ = cmp (left.toRat * 10 ^ 28) (right.toRat * 10 ^ 28) := by
      rw [units_eq, units_eq, cmp_eq_compare]
    _ = cmp left.toRat right.toRat := widening.cmp_map_eq _ _
    _ = Ord.compare left.toRat right.toRat := cmp_eq_compare _ _

end Number.Decimal

namespace Numeric

/-- The number that an integer or a decimal is. -/
def number? : Numeric → Option ℚ
  | int32 value => some value.toInt
  | int64 value => some value.toInt
  | decimal value => some value.toRat
  | single _ | double _ => none

variable {numeric left right : Numeric} {a b : ℚ}

theorem toDecimal?_of_number? (number : numeric.number? = some a) :
    ∃ decimal, numeric.toDecimal? = some decimal ∧ decimal.toRat = a := by
  cases numeric with
  | single | double => cases number
  | int32 value =>
    cases number
    exact ⟨_, rfl, by rw [Number.Decimal.toRat_ofInt64, Int32.toInt_toInt64]⟩
  | int64 value =>
    cases number
    exact ⟨_, rfl, Number.Decimal.toRat_ofInt64 value⟩
  | decimal value =>
    cases number
    exact ⟨_, rfl, rfl⟩

theorem toInt?_of_number? (number : numeric.number? = some a) (whole : numeric.isDecimal = false) :
    ∃ integer : Int, numeric.toInt? = some integer ∧ integer = a := by
  cases numeric with
  | single | double => cases number
  | int32 | int64 =>
    cases number
    exact ⟨_, rfl, rfl⟩
  | decimal => cases whole

/-- Whichever types the numbers are brought to, they are compared as the numbers they are. -/
theorem compare?_of_number? (first : left.number? = some a) (second : right.number? = some b) :
    left.compare? right = some (compare a b) := by
  unfold compare?
  split
  · obtain ⟨decimal, read, rfl⟩ := toDecimal?_of_number? first
    obtain ⟨other, readOther, rfl⟩ := toDecimal?_of_number? second
    rw [read, readOther]
    exact congrArg some (decimal.compare_eq other)
  · rename_i integers
    simp only [Bool.or_eq_true, not_or, Bool.not_eq_true] at integers
    obtain ⟨integer, read, rfl⟩ := toInt?_of_number? first integers.1
    obtain ⟨other, readOther, rfl⟩ := toInt?_of_number? second integers.2
    rw [read, readOther, compare_intCast]

end Numeric

end TypedSql
