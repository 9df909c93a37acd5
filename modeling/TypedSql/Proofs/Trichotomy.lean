import TypedSql.Proofs.Evaluation.Ordering
import TypedSql.Proofs.Value.DecimalRange
import TypedSql.Proofs.Value.NotANumber
import TypedSql.Proofs.Value.WireForm

namespace TypedSql

open Number (Binary Decimal)

namespace Numeric

/-- Binary numbers that are infinite or of a magnitude that no decimal has. -/
def IsBeyondDecimals : Numeric → Prop
  | single value => (Binary.ofSingle value).Reaches Decimal.limit
  | double value => (Binary.ofDouble value).Reaches Decimal.limit
  | int32 _ | int64 _ | decimal _ => False

def Apart (left right : Numeric) : Prop :=
  left.isDecimal = true ∧ right.IsBeyondDecimals ∨ right.isDecimal = true ∧ left.IsBeyondDecimals

variable {numeric left right : Numeric}

theorem toDecimal?_ne_none (decimal : numeric.isDecimal = true) : numeric.toDecimal? ≠ none := by
  cases numeric with
  | decimal => simp [toDecimal?]
  | _ => cases decimal

theorem isNaN_toDouble (binary : numeric.isDecimal = false) :
    numeric.toDouble.isNaN = numeric.toValue.isNaN := by
  cases numeric with
  | int32 | int64 => exact Number.isNaN_doubleOfInt _
  | single => exact Number.isNaN_doubleOfSingle _
  | double => rfl
  | decimal => cases binary

theorem toDecimal?_eq_none_iff (number : numeric.toValue.isNaN = false) :
    numeric.toDecimal? = none ↔ numeric.IsBeyondDecimals := by
  cases numeric with
  | int32 | int64 | decimal => simp [toDecimal?, IsBeyondDecimals]
  | single value =>
    have defined : Binary.ofSingle value ≠ .nan :=
      mt Binary.ofSingle_eq_nan_iff.mp (Bool.eq_false_iff.mp number)
    exact (Decimal.ofBinary?_read_eq_none_iff _ _ _ (by decide)).trans (or_iff_right defined)
  | double value =>
    have defined : Binary.ofDouble value ≠ .nan :=
      mt Binary.ofDouble_eq_nan_iff.mp (Bool.eq_false_iff.mp number)
    exact (Decimal.ofBinary?_read_eq_none_iff _ _ _ (by decide)).trans (or_iff_right defined)

theorem compare?_eq_none_iff (number : left.toValue.isNaN = false)
    (number' : right.toValue.isNaN = false) : left.compare? right = none ↔ left.Apart right := by
  unfold compare? Apart
  rw [← toDecimal?_eq_none_iff number, ← toDecimal?_eq_none_iff number']
  split
  · rename_i decimal
    have first : left.isDecimal = true → left.toDecimal? ≠ none := toDecimal?_ne_none
    have second : right.isDecimal = true → right.toDecimal? ≠ none := toDecimal?_ne_none
    generalize left.toDecimal? = a at first ⊢
    generalize right.toDecimal? = b at second ⊢
    cases a <;> cases b <;> simp_all
  · rename_i binary
    simp only [Bool.or_eq_true, not_or, Bool.not_eq_true] at binary
    have ordered : Binary.compare? left.toDouble right.toDouble ≠ none := by
      rw [Ne, Binary.compare?_eq_none_iff, isNaN_toDouble binary.1, isNaN_toDouble binary.2]
      simp [number, number']
    cases left.toInt? <;> cases right.toInt? <;> simp [binary, ordered]

end Numeric

theorem Comparison.decide_numerics (comparison : Comparison) (left right : Numeric) :
    comparison.decide left.toValue right.toValue =
      match left.compare? right with
      | some order => .ok (comparison.holds order)
      | none => .ok (comparison == .notEqual) := by
  cases left <;> cases right <;> rfl

/-- Numbers that are not NaN, infinities among them, are less, equal or greater, and nothing else,
unless one is a decimal and the other is beyond what decimals hold. Then they only differ. -/
theorem trichotomous_iff {left right : Numeric} (number : left.toValue.isNaN = false)
    (number' : right.toValue.isNaN = false) :
    (left.toValue.Trichotomous right.toValue ↔ ¬left.Apart right) ∧
      (left.Apart right → ∀ comparison : Comparison,
        comparison.decide left.toValue right.toValue = .ok (comparison == .notEqual)) := by
  rw [← Numeric.compare?_eq_none_iff number number']
  cases compared : left.compare? right with
  | none =>
    have decided (comparison : Comparison) :
        comparison.decide left.toValue right.toValue = .ok (comparison == .notEqual) := by
      rw [Comparison.decide_numerics, compared]
    refine ⟨iff_of_false ?_ (not_not_intro rfl), fun _ => decided⟩
    rintro ⟨⟨comparison, ⟨member, holds⟩, _⟩, _⟩
    rw [decided] at holds
    cases comparison <;> simp at member holds
  | some order =>
    have decided (comparison : Comparison) :
        comparison.decide left.toValue right.toValue = .ok (comparison.holds order) := by
      rw [Comparison.decide_numerics, compared]
    exact ⟨iff_of_true (Value.trichotomous_of_order decided) (by simp), fun none => by cases none⟩

theorem trichotomous_iff_infinite :
    let infinity : Float := .ofBits 0x7ff0000000000000
    Value.isNaN (.double infinity) = false ∧
      Value.Trichotomous (.int64 Int64.maxValue) (.double infinity) := by
  intro infinity
  have number : (Numeric.double infinity).toValue.isNaN = false := by decide +kernel
  have near : ¬(Numeric.int64 Int64.maxValue).Apart (.double infinity) := by
    simp [Numeric.Apart, Numeric.isDecimal]
  have integer : (Numeric.int64 Int64.maxValue).toValue.isNaN = false := rfl
  exact ⟨number, (trichotomous_iff integer number).1.mpr near⟩

/-- One is neither less than the double `1e30` nor equal to it nor greater. -/
theorem decimal_unordered :
    let one : Value := .decimal ⟨false, 1, 0, by decide, by decide⟩
    let large : Value := .double (.ofBits 0x46293e5939a08cea)
    one.isNaN = false ∧ large.isNaN = false ∧ ¬one.Trichotomous large ∧
      ∀ comparison ∈ [Comparison.less, .equal, .greater],
        comparison.decide one large = .ok false := by
  intro one large
  have none : ∀ comparison ∈ [Comparison.less, .equal, .greater],
      comparison.decide one large = .ok false := by decide +kernel
  refine ⟨rfl, by decide +kernel, ?_, none⟩
  rintro ⟨⟨comparison, ⟨member, holds⟩, _⟩, _⟩
  rw [none comparison member] at holds
  cases holds

end TypedSql
