import TypedSql.Proofs.Evaluation.Success
import TypedSql.Proofs.Value.Integer

namespace TypedSql

namespace Expr

inductive IsInteger : Expr → Prop where
  | int32 (value : Int32) : IsInteger (.literal (.int32 value))
  | int64 (value : Int64) : IsInteger (.literal (.int64 value))
  | arithmetic {operator : Arithmetic} {left right : Expr} (first : left.IsInteger)
      (second : right.IsInteger) : IsInteger (.arithmetic operator left right)

/-- The number of an expression in its width, where each operation has an exact result that fits the
wider of the widths of its operands. -/
inductive Exact : Expr → Width → Int → Prop where
  | int32 (value : Int32) : Exact (.literal (.int32 value)) .narrow value.toInt
  | int64 (value : Int64) : Exact (.literal (.int64 value)) .wide value.toInt
  | arithmetic {operator : Arithmetic} {left right : Expr} {width width' : Width}
      {a b number : Int} (first : left.Exact width a) (second : right.Exact width' b)
      (yields : operator.Yields a b number) (fits : (width.join width').Fits number) :
      Exact (.arithmetic operator left right) (width.join width') number

/-- The first operation, operands before what is done with them and the left one first, that has
operands with numbers but no number of its own. -/
inductive FirstInexact : Expr → Expr → Prop where
  | left {operator : Arithmetic} {left right operation : Expr}
      (within : left.FirstInexact operation) :
      FirstInexact (.arithmetic operator left right) operation
  | right {operator : Arithmetic} {left right operation : Expr} {width : Width} {a : Int}
      (first : left.Exact width a) (within : right.FirstInexact operation) :
      FirstInexact (.arithmetic operator left right) operation
  | here {operator : Arithmetic} {left right : Expr} {width width' : Width} {a b : Int}
      (first : left.Exact width a) (second : right.Exact width' b)
      (unfit : ∀ number, operator.Yields a b number → ¬(width.join width').Fits number) :
      FirstInexact (.arithmetic operator left right) (.arithmetic operator left right)

variable {expr operation : Expr}

theorem IsInteger.exact_or_inexact (integer : expr.IsInteger) :
    (∃ width number, expr.Exact width number) ∨ ∃ operation, expr.FirstInexact operation := by
  induction integer with
  | int32 value => exact .inl ⟨_, _, .int32 value⟩
  | int64 value => exact .inl ⟨_, _, .int64 value⟩
  | @arithmetic operator left right _ _ ihFirst ihSecond =>
    obtain ⟨width, a, first⟩ | ⟨operation, within⟩ := ihFirst
    · obtain ⟨width', b, second⟩ | ⟨operation, within⟩ := ihSecond
      · by_cases fits : ∃ number, operator.Yields a b number ∧ (width.join width').Fits number
        · obtain ⟨number, yields, fits⟩ := fits
          exact .inl ⟨_, number, .arithmetic first second yields fits⟩
        · simp only [not_exists, not_and] at fits
          exact .inr ⟨_, .here first second fits⟩
      · exact .inr ⟨operation, .right first within⟩
    · exact .inr ⟨operation, .left within⟩

theorem Exact.evaluate {width : Width} {number : Int} (exact : expr.Exact width number) :
    ∃ value, expr.evaluate = .ok value ∧ width.Holds number value := by
  induction exact with
  | int32 value => exact ⟨_, rfl, .int32 value⟩
  | int64 value => exact ⟨_, rfl, .int64 value⟩
  | arithmetic _ _ yields fits ihFirst ihSecond =>
    obtain ⟨left, evaluatedLeft, first⟩ := ihFirst
    obtain ⟨right, evaluatedRight, second⟩ := ihSecond
    obtain ⟨value, decided, holds⟩ := Arithmetic.decide_of_yields first second yields fits
    exact ⟨value, evaluate_arithmetic_ok.mpr ⟨left, right, evaluatedLeft, evaluatedRight, decided⟩,
      holds⟩

theorem FirstInexact.evaluate (inexact : expr.FirstInexact operation) :
    expr.evaluate = .error (.unsupported operation .arithmeticOverflow) := by
  induction inexact with
  | left within ih => rw [Expr.evaluate, ih]; rfl
  | right first within ih =>
    obtain ⟨left, evaluated, _⟩ := first.evaluate
    rw [Expr.evaluate, evaluated, ih]
    rfl
  | here first second unfit =>
    obtain ⟨left, evaluatedLeft, holdsLeft⟩ := first.evaluate
    obtain ⟨right, evaluatedRight, holdsRight⟩ := second.evaluate
    have overflow := Arithmetic.decide_of_unfit holdsLeft holdsRight unfit
    rw [Expr.evaluate, evaluatedLeft, evaluatedRight]
    exact congrArg (step _) overflow

end Expr

/-- An expression of integers has a value exactly if each of its operations has an exact result that
fits its type, and then this is the value in that type. Else the first operation that has none is
refused. -/
theorem integers_exact_or_refused {expr : Expr} (integer : expr.IsInteger) :
    ((∃ value, expr.evaluate = .ok value) ↔ ∃ width number, expr.Exact width number) ∧
    (∀ width number, expr.Exact width number →
      ∃ value, expr.evaluate = .ok value ∧ width.Holds number value) ∧
    ((¬∃ width number, expr.Exact width number) → ∃ operation, expr.FirstInexact operation ∧
      expr.evaluate = .error (.unsupported operation .arithmeticOverflow)) := by
  refine ⟨⟨?_, ?_⟩, fun width number exact => exact.evaluate, fun none => ?_⟩
  · rintro ⟨value, evaluated⟩
    refine integer.exact_or_inexact.resolve_right ?_
    rintro ⟨operation, inexact⟩
    cases evaluated.symm.trans inexact.evaluate
  · rintro ⟨width, number, exact⟩
    obtain ⟨value, evaluated, _⟩ := exact.evaluate
    exact ⟨value, evaluated⟩
  · obtain ⟨operation, inexact⟩ := integer.exact_or_inexact.resolve_left none
    exact ⟨operation, inexact, inexact.evaluate⟩

/-- `0L * (-2147483648 / divisor)`, where the quotient is of 32 bits and the product of 64. -/
def Expr.leastQuotient (divisor : Int32) : Expr :=
  .arithmetic .mul (.literal (.int64 0))
    (.arithmetic .div (.literal (.int32 (-0x80000000))) (.literal (.int32 divisor)))

theorem integers_exact_or_refused_least :
    (Expr.leastQuotient (-1)).IsInteger ∧
      ∃ operation, (Expr.leastQuotient (-1)).FirstInexact operation ∧
        (Expr.leastQuotient (-1)).evaluate =
          .error (.unsupported operation .arithmeticOverflow) := by
  have integer : (Expr.leastQuotient (-1)).IsInteger :=
    .arithmetic (.int64 0) (.arithmetic (.int32 _) (.int32 _))
  refine ⟨integer, (integers_exact_or_refused integer).2.2 ?_⟩
  rintro ⟨_, _, exact⟩
  obtain _ | _ | ⟨_, quotient, _, _⟩ := exact
  obtain _ | _ | ⟨least, negative, yields, fits⟩ := quotient
  cases least
  cases negative
  obtain _ | _ | _ | _ := yields
  exact absurd fits (by decide)

end TypedSql
