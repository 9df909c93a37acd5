import TypedSql.Proofs.Evaluation.Exact
import TypedSql.Proofs.Truth

namespace TypedSql

namespace Comparison

theorem holds_compare {Rank : Type} [LinearOrder Rank] (comparison : Comparison) (a b : Rank) :
    comparison.holds (compare a b) = true ↔ comparison.relates a b := by
  cases comparison with
  | equal => simp [holds, relates]
  | notEqual => simp [holds, relates]
  | greater => simp [holds, relates, compare_gt_iff_gt]
  | greaterOrEqual => simp [holds, relates, compare_ge_iff_ge]
  | less => simp [holds, relates, compare_lt_iff_lt]
  | lessOrEqual => simp [holds, relates, compare_le_iff_le]

theorem holds_trans {Key : Type} [Ord Key] [Std.TransOrd Key] {comparison : Comparison}
    (transitive : comparison ∈ [equal, lessOrEqual]) {a b c : Key}
    (first : comparison.holds (compare a b)) (second : comparison.holds (compare b c)) :
    comparison.holds (compare a c) := by
  have atMost : ∀ order : Ordering, lessOrEqual.holds order = order.isLE := by decide
  simp only [List.mem_cons, List.not_mem_nil, or_false] at transitive
  obtain rfl | rfl := transitive
  · simp only [holds, beq_iff_eq] at first second ⊢
    exact Std.TransCmp.eq_trans first second
  · rw [atMost] at first second ⊢
    exact Std.TransCmp.isLE_trans first second

end Comparison

namespace Value

/-- The values that are always in order with those of their type. -/
structure Ordered (value : Value) : Prop where
  present : value.isNull = false
  exact : value.isExact = true

variable {left middle right value : Value} {comparison : Comparison}

theorem isSome_ofValue? (same : left.fieldType? = right.fieldType?) :
    (Numeric.ofValue? left).isSome = (Numeric.ofValue? right).isSome := by
  cases left <;> cases right <;> first | rfl | cases same

theorem isComparable_trans (first : left.isComparable middle) (second : middle.isComparable right) :
    left.isComparable right := by
  simp only [isComparable, Bool.or_eq_true, Bool.and_eq_true, beq_iff_eq] at first second ⊢
  obtain same | ⟨number, between⟩ := first
  · obtain same' | ⟨between, number⟩ := second
    · exact .inl (same.trans same')
    · exact .inr ⟨isSome_ofValue? same ▸ between, number⟩
  · obtain same | ⟨_, number'⟩ := second
    · exact .inr ⟨number, isSome_ofValue? same ▸ between⟩
    · exact .inr ⟨number, number'⟩

theorem key_of_number? {number : ℚ} (isNumber : value.number? = some number) :
    value.key = [number] := by
  cases value with
  | int32 | int64 | decimal =>
    cases isNumber
    rfl
  | _ => cases isNumber

end Value

namespace Comparison

variable {comparison : Comparison} {left middle right : Value}

theorem decide_of_ordered (first : left.Ordered) (second : right.Ordered)
    (comparable : left.isComparable right) :
    comparison.decide left right = .ok (comparison.holds (compare left.key right.key)) :=
  decide_of_exact first.exact second.exact first.present second.present comparable

theorem decide_numbers (first : left.Ordered) (second : right.Ordered)
    (comparable : left.isComparable right) {a b : ℚ} (isNumber : left.number? = some a)
    (isOther : right.number? = some b) :
    comparison.decide left right = .ok (Decidable.decide (comparison.relates a b)) := by
  rw [decide_of_ordered first second comparable, Value.key_of_number? isNumber,
    Value.key_of_number? isOther, compare_singleton (fun _ _ => rfl)]
  simp only [← holds_compare, Bool.decide_eq_true]

theorem isComparable_of_decide {truth : Bool} (first : left.Ordered) (second : right.Ordered)
    (decided : comparison.decide left right = .ok truth) : left.isComparable right := by
  by_contra incomparable
  simp only [Bool.not_eq_true] at incomparable
  simp [decide, first.present, second.present, incomparable] at decided

theorem decide_trans (transitive : comparison ∈ [equal, lessOrEqual]) (first : left.Ordered)
    (second : middle.Ordered) (third : right.Ordered)
    (decided : comparison.decide left middle = .ok true)
    (decided' : comparison.decide middle right = .ok true) :
    comparison.decide left right = .ok true := by
  have comparable := isComparable_of_decide first second decided
  have comparable' := isComparable_of_decide second third decided'
  rw [decide_of_ordered first second comparable, Except.ok.injEq] at decided
  rw [decide_of_ordered second third comparable', Except.ok.injEq] at decided'
  rw [decide_of_ordered first third (Value.isComparable_trans comparable comparable'),
    holds_trans transitive decided decided']

end Comparison

/-- A comparison has the outcome of its mirror image, whatever the values. Those that are neither
null nor binary numbers are in a total order with the values of their type, integers and decimals
with one another as the numbers they are. -/
theorem compares_coherently :
    (∀ (comparison : Comparison) (left right : Value),
      comparison.mirror.decide right left = comparison.decide left right) ∧
    (∀ left right : Value, left.Ordered → right.Ordered → left.isComparable right →
      left.Trichotomous right ∧
      ∀ a b, left.number? = some a → right.number? = some b → ∀ comparison : Comparison,
        comparison.decide left right = .ok (decide (comparison.relates a b))) ∧
    ∀ comparison ∈ [Comparison.equal, Comparison.lessOrEqual], ∀ left middle right : Value,
      left.Ordered → middle.Ordered → right.Ordered →
      comparison.decide left middle = .ok true → comparison.decide middle right = .ok true →
      comparison.decide left right = .ok true := by
  refine ⟨Comparison.decide_mirror, fun left right first second comparable => ⟨?_, ?_⟩, ?_⟩
  · exact Value.trichotomous_of_order fun _ =>
      Comparison.decide_of_ordered first second comparable
  · exact fun a b isNumber isOther comparison =>
      Comparison.decide_numbers first second comparable isNumber isOther
  · exact fun comparison transitive left middle right =>
      Comparison.decide_trans transitive

/-- One, as an integer and with two decimal places, and two. -/
theorem compares_coherently_one :
    let one : Number.Decimal := ⟨false, 100, 2, by decide, by decide⟩
    Value.Trichotomous (.int32 1) (.decimal one) ∧
      Comparison.lessOrEqual.decide (.int32 1) (.int64 2) = .ok true := by
  intro one
  obtain ⟨_, total, transitive⟩ := compares_coherently
  refine ⟨(total _ _ ⟨rfl, rfl⟩ ⟨rfl, rfl⟩ rfl).1, ?_⟩
  exact transitive .lessOrEqual (by simp) _ (.decimal one) _ ⟨rfl, rfl⟩ ⟨rfl, rfl⟩ ⟨rfl, rfl⟩
    (by decide +kernel) (by decide +kernel)

end TypedSql
