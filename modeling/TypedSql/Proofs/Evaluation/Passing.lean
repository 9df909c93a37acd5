import TypedSql.Proofs.Compilation.Clauses
import TypedSql.Proofs.Evaluation.Success

namespace TypedSql

open Predicate (Tree)

def Expr.IsDecided (expr : Expr) : Prop :=
  ∃ truth, expr.evaluateBool = .ok truth

namespace Expr

def parts : Expr → List Expr
  | not inner => inner.parts
  | connect _ left right => left.parts ++ right.parts
  | expr => [expr]

/-- The parts that an evaluation does not come to, behind an operand that settles a connective. -/
def passed : Expr → List Expr
  | not inner => inner.passed
  | connect connective left right =>
    left.passed ++
      match left.evaluateBool with
      | .ok truth => if connective.isSettledBy truth then right.parts else right.passed
      | .error _ => []
  | _ => []

theorem leaves_clauses (expr : Expr) (negated : Bool) :
    (expr.clauses negated).leaves.map Clause.expr = expr.parts := by
  fun_induction Expr.clauses expr negated with
  | case1 inner negated ih => exact ih
  | case2 connective left right negated ihLeft ihRight =>
    rw [Tree.leaves, List.map_append, ihLeft, ihRight, parts]
  | case3 expr negated noNegation noConnective =>
    rw [parts.eq_3 expr noNegation noConnective]
    rfl

variable {connective : Connective} {inner left right : Expr} {truth : Bool}

theorem evaluateBool_not_ok :
    (not inner).evaluateBool = .ok truth ↔ inner.evaluateBool = .ok (!truth) := by
  rw [evaluateBool_ok, evaluate_not_ok]
  constructor
  · rintro ⟨other, decided, ⟨⟩⟩
    rw [Bool.not_not, decided]
  · intro decided
    exact ⟨!truth, decided, by rw [Bool.not_not]⟩

theorem evaluateBool_connect_ok :
    (connect connective left right).evaluateBool = .ok truth ↔
      connective.shortCircuit left.evaluateBool right.evaluateBool = .ok truth := by
  rw [evaluateBool_ok, evaluate_connect_ok]
  simp

theorem isDecided_not : (not inner).IsDecided ↔ inner.IsDecided := by
  simp only [IsDecided, evaluateBool_not_ok]
  exact ⟨fun ⟨truth, decided⟩ => ⟨!truth, decided⟩,
    fun ⟨truth, decided⟩ => ⟨!truth, by rw [Bool.not_not, decided]⟩⟩

theorem isDecided_connect :
    (connect connective left right).IsDecided ↔
      ∃ truth, left.evaluateBool = .ok truth ∧
        (connective.isSettledBy truth = false → right.IsDecided) := by
  simp only [IsDecided, evaluateBool_connect_ok, Connective.shortCircuit, Except.bind_ok]
  rw [exists_comm]
  refine exists_congr fun first => ?_
  rw [exists_and_left]
  cases connective.isSettledBy first <;> simp [pure, Except.pure]

/-- Each part alone is true or false exactly if the whole is and each part passed over is. -/
theorem isDecided_parts (expr : Expr) :
    (∀ part ∈ expr.parts, part.IsDecided) ↔
      expr.IsDecided ∧ ∀ part ∈ expr.passed, part.IsDecided := by
  fun_induction Expr.parts expr with
  | case1 inner ih => rw [ih, isDecided_not, passed]
  | case2 connective left right ihLeft ihRight =>
    rw [isDecided_connect]
    simp only [passed, List.forall_mem_append]
    rw [ihLeft]
    constructor
    · rintro ⟨⟨⟨truth, decided⟩, passedLeft⟩, partsRight⟩
      refine ⟨⟨truth, decided, fun _ => (ihRight.mp partsRight).1⟩, passedLeft, ?_⟩
      simp only [decided]
      split
      · exact partsRight
      · exact (ihRight.mp partsRight).2
    · rintro ⟨⟨truth, decided, later⟩, passedLeft, passedRight⟩
      refine ⟨⟨⟨truth, decided⟩, passedLeft⟩, ?_⟩
      simp only [decided] at passedRight
      split at passedRight
      · exact passedRight
      · rename_i unsettled
        exact ihRight.mpr ⟨later (by simpa using unsettled), passedRight⟩
  | case3 expr noNegation noConnective =>
    rw [passed.eq_3 expr noNegation noConnective]
    simp

end Expr

end TypedSql
