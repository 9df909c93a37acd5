import Mathlib.Algebra.Ring.Nat
import TypedSql.Number.Binary
import TypedSql.Number.Rounding

namespace TypedSql.Number

open Float.Model (UnpackedFloat Format)
open Float.Model.UnpackedFloat (Sign unpackExponent unpackMantissa)

theorem isNaN_dite {p : Prop} [Decidable p] {yes : p → UnpackedFloat} {no : ¬p → UnpackedFloat}
    (left : ∀ holds, (yes holds).isNaN = false) (right : ∀ fails, (no fails).isNaN = false) :
    (dite p yes no).isNaN = false := by
  split
  · exact left _
  · exact right _

section

variable {format : Format} (bits : BitVec format.numBits)

theorem toNat_unpackExponent : (unpackExponent bits).toNat =
    bits.toNat / 2 ^ format.mantissaBitsWithoutImplicit % 2 ^ format.exponentBits := by
  have width : format.mantissaBitsWithoutImplicit + format.exponentBits - 1 -
      format.mantissaBitsWithoutImplicit + 1 = format.exponentBits := by
    have := format.he
    omega
  rw [unpackExponent, BitVec.toNat_cast, BitVec.extractLsb_toNat, width,
    Nat.shiftRight_eq_div_pow]

theorem toNat_unpackMantissa :
    (unpackMantissa bits).toNat = bits.toNat % 2 ^ format.mantissaBitsWithoutImplicit := by
  have width : format.mantissaBitsWithoutImplicit - 1 - 0 + 1 =
      format.mantissaBitsWithoutImplicit := by
    have := format.hm
    omega
  rw [unpackMantissa, BitVec.toNat_cast, BitVec.extractLsb_toNat, width, Nat.shiftRight_zero]

theorem isNaN_unpack : (UnpackedFloat.unpack format bits).isNaN = true ↔
    unpackExponent bits = -1#_ ∧ unpackMantissa bits ≠ 0#_ := by
  unfold UnpackedFloat.unpack
  dsimp only
  by_cases ones : unpackExponent bits = -1#_
  · rw [if_pos ones]
    by_cases clear : unpackMantissa bits = 0#_
    · rw [if_pos clear]
      exact iff_of_false Bool.false_ne_true fun both => both.2 clear
    · rw [if_neg clear]
      exact iff_of_true rfl ⟨ones, clear⟩
  · rw [if_neg ones]
    refine iff_of_false (Bool.eq_false_iff.mp ?_) fun both => ones both.1
    by_cases zeros : unpackExponent bits = 0#_
    · rw [if_pos zeros]
      exact isNaN_dite (fun _ => rfl) (fun _ => rfl)
    · rw [if_neg zeros]
      rfl

theorem isNaN_unpack_iff : (UnpackedFloat.unpack format bits).isNaN = true ↔
    bits.toNat / 2 ^ format.mantissaBitsWithoutImplicit % 2 ^ format.exponentBits + 1 =
        2 ^ format.exponentBits ∧
      bits.toNat % 2 ^ format.mantissaBitsWithoutImplicit ≠ 0 := by
  have positive := Nat.two_pow_pos format.exponentBits
  simp only [isNaN_unpack, ← toNat_unpackExponent, ← toNat_unpackMantissa, ← BitVec.toNat_inj,
    BitVec.neg_one_eq_allOnes, BitVec.toNat_allOnes, BitVec.toNat_ofNat, Nat.zero_mod, ne_eq]
  omega

end

theorem isNaN_double (value : Float) : value.isNaN = true ↔
    value.toBits.toNat / 2 ^ 52 % 2 ^ 11 + 1 = 2 ^ 11 ∧ value.toBits.toNat % 2 ^ 52 ≠ 0 :=
  @isNaN_unpack_iff .binary64 value.toBits.toBitVec

theorem isNaN_single (value : Float32) : value.isNaN = true ↔
    value.toBits.toNat / 2 ^ 23 % 2 ^ 8 + 1 = 2 ^ 8 ∧ value.toBits.toNat % 2 ^ 23 ≠ 0 :=
  @isNaN_unpack_iff .binary32 value.toBits.toBitVec

theorem isNaN_unpack_pack (value : UnpackedFloat) :
    (UnpackedFloat.unpack .binary64 (value.pack .binary64)).isNaN = value.isNaN := by
  rw [Bool.eq_iff_iff, isNaN_unpack]
  fun_cases UnpackedFloat.pack .binary64 value with
  | case1 => exact iff_of_true (by decide) rfl
  | case2 sign => exact iff_of_false (by cases sign <;> decide) Bool.false_ne_true
  | case3 sign => exact iff_of_false (by cases sign <;> decide) Bool.false_ne_true
  | case4 sign mantissa exponent =>
    exact iff_of_false (by cases sign <;> decide) Bool.false_ne_true
  | case5 sign mantissa exponent positive _ biased finite =>
    refine iff_of_false (fun both => ?_) Bool.false_ne_true
    have same := both.1
    rw [UnpackedFloat.unpackExponent_packComponents] at same
    -- An exponent of ones alone is taken for infinity before.
    have number : biased % 2 ^ 11 = 2047 := congrArg BitVec.toNat same
    have least : ¬2 ^ 11 ≤ biased + 1 := finite
    omega
  | case6 sign mantissa exponent =>
    refine iff_of_false (fun both => ?_) Bool.false_ne_true
    have same := both.1
    rw [UnpackedFloat.unpackExponent_packComponents] at same
    exact absurd same (by decide)

theorem isNaN_round (format : Format) (sign : Sign) (mantissa : Nat) (exponent : Int) :
    (UnpackedFloat.round format sign mantissa exponent).isNaN = false := by
  unfold UnpackedFloat.round UnpackedFloat.roundWithAccuracy
  exact isNaN_dite (fun _ => rfl) (fun _ => rfl)

theorem isNaN_ofInt (format : Format) (value : Int) :
    (UnpackedFloat.ofInt format value).isNaN = false := by
  unfold UnpackedFloat.ofInt UnpackedFloat.normalize
  split
  · exact isNaN_round ..
  · rfl
  · exact isNaN_round ..

theorem isNaN_widen (value : UnpackedFloat) : (widen value).isNaN = value.isNaN := by
  cases value with
  | finite => exact isNaN_round ..
  | _ => rfl

theorem isNaN_doubleOfInt (value : Int) : (doubleOfInt value).isNaN = false :=
  (isNaN_unpack_pack _).trans (isNaN_ofInt ..)

theorem isNaN_doubleOfSingle (value : Float32) : (doubleOfSingle value).isNaN = value.isNaN :=
  (isNaN_unpack_pack _).trans (isNaN_widen _)

namespace Binary

theorem Format.read_eq_nan_iff {format : Format} {bits : Nat} : format.read bits = .nan ↔
    bits / twoTo format.fractionBits % twoTo format.exponentBits + 1 = twoTo format.exponentBits ∧
      bits % twoTo format.fractionBits ≠ 0 := by
  unfold read
  dsimp only
  split
  · rename_i full
    split <;> simp_all
  · rename_i lower
    split <;> simp [lower]

theorem ofDouble_eq_nan_iff {value : Float} : ofDouble value = .nan ↔ value.isNaN = true :=
  Format.read_eq_nan_iff.trans (isNaN_double value).symm

theorem ofSingle_eq_nan_iff {value : Float32} : ofSingle value = .nan ↔ value.isNaN = true :=
  Format.read_eq_nan_iff.trans (isNaN_single value).symm

/-- The doubles are in order but for those that are not a number. -/
theorem orderKey?_eq_none_iff {value : Float} : orderKey? value = none ↔ value.isNaN = true := by
  rw [isNaN_double]
  unfold orderKey?
  dsimp only
  split
  · simp only [true_iff]
    omega
  · split
    · simp only [reduceCtorEq, false_iff]
      omega
    · simp only [reduceCtorEq, false_iff]
      omega

theorem compare?_eq_none_iff {left right : Float} :
    compare? left right = none ↔ left.isNaN = true ∨ right.isNaN = true := by
  rw [← orderKey?_eq_none_iff, ← orderKey?_eq_none_iff, compare?]
  cases orderKey? left <;> cases orderKey? right <;> simp

end Binary

end TypedSql.Number
