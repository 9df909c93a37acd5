import Mathlib.Logic.ExistsUnique
import TypedSql.Expr.Evaluation

namespace TypedSql

theorem Number.Decimal.compare_swap (left right : Decimal) :
    right.compare left = (left.compare right).swap := by
  unfold compare
  exact Std.OrientedCmp.eq_swap

theorem Guid.compare_swap (left right : Guid) : right.compare left = (left.compare right).swap := by
  unfold compare
  exact Std.OrientedCmp.eq_swap

theorem DateTime.compare_swap (left right : DateTime) :
    right.compare left = (left.compare right).swap := by
  unfold compare
  exact Std.OrientedCmp.eq_swap

theorem Number.Binary.compare?_swap (left right : Float) :
    compare? right left = (compare? left right).map Ordering.swap := by
  unfold compare?
  cases orderKey? left with
  | none => cases orderKey? right <;> rfl
  | some a =>
    cases orderKey? right with
    | none => rfl
    | some b => exact congrArg some Std.OrientedCmp.eq_swap

theorem Numeric.compare?_swap (left right : Numeric) :
    right.compare? left = (left.compare? right).map Ordering.swap := by
  unfold compare?
  rw [Bool.or_comm]
  split
  · cases left.toDecimal? with
    | none => cases right.toDecimal? <;> rfl
    | some a =>
      cases right.toDecimal? with
      | none => rfl
      | some b => exact congrArg some (Number.Decimal.compare_swap a b)
  · cases left.toInt? with
    | none => cases right.toInt? <;> exact Number.Binary.compare?_swap _ _
    | some a =>
      cases right.toInt? with
      | none => exact Number.Binary.compare?_swap _ _
      | some b => exact congrArg some Std.OrientedCmp.eq_swap

namespace Value

theorem isComparable_comm (left right : Value) :
    left.isComparable right = right.isComparable left := by
  simp only [isComparable, Bool.and_comm, Bool.beq_comm (a := left.fieldType?)]

/-- The order of two values turns round with them, also where there is none. -/
theorem order?_swap (left right : Value) :
    right.order? left = (left.order? right).map Ordering.swap := by
  cases left with
  | null => cases right <;> rfl
  | bool a =>
    cases right with
    | bool b => exact congrArg some Std.OrientedCmp.eq_swap
    | _ => rfl
  | string a =>
    cases right with
    | string b => exact congrArg some Std.OrientedCmp.eq_swap
    | _ => rfl
  | guid a =>
    cases right with
    | guid b => exact congrArg some (Guid.compare_swap a b)
    | _ => rfl
  | datetime a =>
    cases right with
    | datetime b => exact congrArg some (DateTime.compare_swap a b)
    | _ => rfl
  | bytes a =>
    cases right with
    | bytes b => exact congrArg some Std.OrientedCmp.eq_swap
    | _ => rfl
  | int32 | int64 | single | double | decimal =>
    cases right with
    | int32 | int64 | single | double | decimal => exact Numeric.compare?_swap _ _
    | _ => rfl

end Value

/-- Any two values, compared the other way round by the mirrored comparison, have the same
outcome. -/
theorem Comparison.decide_mirror (comparison : Comparison) (left right : Value) :
    comparison.mirror.decide right left = comparison.decide left right := by
  unfold decide
  rw [Bool.or_comm, Bool.and_comm, Value.isComparable_comm, Value.order?_swap]
  split
  · cases comparison <;> rfl
  · split
    · rfl
    · cases left.order? right with
      | none => cases comparison <;> rfl
      | some order => exact congrArg Except.ok (holds_mirror comparison order)

/-- Exactly one of less, equal and greater is true of two values, and each comparison of them is the
opposite of its negation. -/
structure Value.Trichotomous (left right : Value) : Prop where
  one : ∃! comparison : Comparison, comparison ∈ [.less, .equal, .greater] ∧
    comparison.decide left right = .ok true
  negated (comparison : Comparison) : ∃ truth, comparison.decide left right = .ok truth ∧
    comparison.negate.decide left right = .ok !truth

theorem Value.trichotomous_of_order {left right : Value} {order : Ordering}
    (decided : ∀ comparison : Comparison,
      comparison.decide left right = .ok (comparison.holds order)) :
    left.Trichotomous right where
  one := by
    simp only [decided, Except.ok.injEq]
    cases order with
    | lt => exact ⟨.less, by decide, fun comparison => by cases comparison <;> decide⟩
    | eq => exact ⟨.equal, by decide, fun comparison => by cases comparison <;> decide⟩
    | gt => exact ⟨.greater, by decide, fun comparison => by cases comparison <;> decide⟩
  negated comparison := ⟨_, decided comparison, by rw [decided, Comparison.holds_negate]⟩

end TypedSql
