import TypedSql.Proofs.Evaluation.Ordering
import TypedSql.Proofs.Value.Number

namespace TypedSql

namespace Numeric

def isExact : Numeric → Bool
  | single _ | double _ => false
  | _ => true

end Numeric

theorem compare_map {α β : Type} [Ord α] [Ord β] {change : α → β}
    (same : ∀ a b, compare (change a) (change b) = compare a b) (items others : List α) :
    compare (items.map change) (others.map change) = compare items others := by
  induction items generalizing others with
  | nil => cases others <;> rfl
  | cons item items ih =>
    cases others with
    | nil => rfl
    | cons other others =>
      simp only [List.map_cons, List.compare_cons_cons, same, ih]

theorem compare_singleton {α β : Type} [Ord α] [Ord β] {change : α → β}
    (same : ∀ a b, compare (change a) (change b) = compare a b) (a b : α) :
    compare [change a] [change b] = compare a b := by
  rw [List.compare_cons_cons, same]
  exact Ordering.then_eq

namespace Value

/-- Whether the value is no binary number. -/
def isExact : Value → Bool
  | single _ | double _ => false
  | _ => true

/-- The number that an integer or a decimal is. -/
def number? (value : Value) : Option ℚ :=
  (Numeric.ofValue? value).bind Numeric.number?

/-- Numbers whose lexicographic order is that of the values of one type, and of integers and
decimals together. -/
def key : Value → List ℚ
  | bool truth => [↑truth.toNat]
  | string text => (text.toList.map Char.toNat).map (↑)
  | guid value => [↑value.bits.toNat]
  | datetime moment => moment.fields.map (↑)
  | bytes content => (content.map UInt8.toNat).map (↑)
  | value => value.number?.toList

theorem order?_of_exact {left right : Value} (exactLeft : left.isExact) (exactRight : right.isExact)
    (present : left.isNull = false) (comparable : left.isComparable right) :
    left.order? right = some (compare left.key right.key) := by
  cases left with
  | null => cases present
  | single | double => cases exactLeft
  | bool a =>
    cases right with
    | bool b =>
      have same : compare a.toNat b.toNat = compare a b := by cases a <;> cases b <;> rfl
      exact congrArg some (same.symm.trans (compare_singleton compare_natCast _ _).symm)
    | _ => cases comparable
  | string a =>
    cases right with
    | string b => exact congrArg some (compare_map compare_natCast _ _).symm
    | _ => cases comparable
  | guid a =>
    cases right with
    | guid b => exact congrArg some (compare_singleton compare_natCast _ _).symm
    | _ => cases comparable
  | datetime a =>
    cases right with
    | datetime b => exact congrArg some (compare_map compare_intCast _ _).symm
    | _ => cases comparable
  | bytes a =>
    cases right with
    | bytes b => exact congrArg some (compare_map compare_natCast _ _).symm
    | _ => cases comparable
  | int32 | int64 | decimal =>
    cases right with
    | single | double => cases exactRight
    | int32 | int64 | decimal =>
      refine (Numeric.compare?_of_number? rfl rfl).trans (congrArg some ?_)
      exact (compare_singleton (fun _ _ => rfl) _ _).symm
    | _ => cases comparable

end Value

namespace Comparison

variable {comparison : Comparison} {left right : Value} {truth : Bool}

theorem decide_of_exact (exactLeft : left.isExact) (exactRight : right.isExact)
    (present : left.isNull = false) (presentRight : right.isNull = false)
    (comparable : left.isComparable right) :
    comparison.decide left right = .ok (comparison.holds (compare left.key right.key)) := by
  simp [decide, present, presentRight, comparable,
    Value.order?_of_exact exactLeft exactRight present comparable]

theorem decide_negate (comparison : Comparison) (exactLeft : left.isExact)
    (exactRight : right.isExact) :
    comparison.negate.decide left right = (comparison.decide left right).map (!·) := by
  unfold decide
  split
  · cases comparison <;> simp [negate, Except.map]
  · rename_i present
    split
    · rfl
    · rename_i comparable
      simp only [Bool.or_eq_true, not_or, Bool.not_eq_true] at present
      simp only [Bool.not_eq_true, Bool.not_eq_false'] at comparable
      rw [Value.order?_of_exact exactLeft exactRight present.1 comparable]
      exact congrArg Except.ok (holds_negate comparison _)

end Comparison

end TypedSql
