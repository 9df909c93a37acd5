import TypedSql.Proofs.Compilation.Clauses
import TypedSql.Proofs.Evaluation.Plain
import TypedSql.Proofs.Reading

namespace TypedSql

open Predicate (Tree)

/-- What a row of a table holds in its columns: neither nulls nor binary numbers. -/
structure ExactRow where
  column : ColumnRef → Value
  present : ∀ reference, (column reference).isNull = false
  exact : ∀ reference, (column reference).isExact = true

section

variable (table : Table) (row : ColumnRef → Value)

namespace Operand

def evaluate : Operand → Except Unsupported Value
  | column _ name type => .ok (row ⟨table, name, type⟩)
  | parameter _ value => .ok value
  | null => .ok .null
  | apply function argument => do (← argument.evaluate).applied function
  | round places argument => do (← argument.evaluate).rounded places.toInt

/-- Whether a value equals one of the operands, which are looked at up to the first that it
equals. -/
def anyEqual (value : Value) : List Operand → Except Unsupported Bool
  | [] => .ok false
  | first :: rest => do
    if ← Comparison.decide .equal value (← first.evaluate table row) then
      return true
    else
      anyEqual value rest

end Operand

namespace Condition

def evaluateTest (kind : Test) (receiver : Operand) (arguments : List Operand) :
    Except Unsupported Bool := do
  let value ← receiver.evaluate table row
  match kind, arguments with
  | .isIn, items => Operand.anyEqual table row value items
  | .between, [low, high] =>
    Test.decideBetween value (← low.evaluate table row) (← high.evaluate table row)
  | kind, [argument] => kind.decideOne value (← argument.evaluate table row)
  | _, _ => throw .argumentCount

def evaluate : Condition → Except Unsupported Bool
  | constant truth => .ok truth
  | comparison .equal left .null => do return (← left.evaluate table row).isNull
  | comparison _ left .null => do return !(← left.evaluate table row).isNull
  | comparison written left right => do
    written.decide (← left.evaluate table row) (← right.evaluate table row)
  | test kind receiver arguments negated => do
    return (← evaluateTest table row kind receiver arguments) != negated

end Condition

/-- Whether a predicate holds in a row of the table, its nodes read from left to right. No result
if they cannot be read. -/
def Predicate.evaluate? (predicate : Predicate) : Option (Except Unsupported Bool) :=
  predicate.read?.map (Tree.fold Connective.shortCircuit (Condition.evaluate table row))

end

section

variable {table : Table} {row : ExactRow}

/-- An operand has the value of its expression, which is neither null nor a binary number. -/
theorem OperandIn.evaluate {expr : Expr} {operand : Operand} {value : Value}
    (compiled : OperandIn (.single table) expr operand)
    (evaluated : (expr.fill row.column).evaluate = .ok value) :
    operand.evaluate table row.column = .ok value ∧ value.isNull = false ∧
      value.isExact = true := by
  induction compiled generalizing value with
  | @column reference qualifier resolved =>
    cases evaluated
    have own : reference.table = table := by
      simp only [Scope.resolve] at resolved
      split at resolved
      · assumption
      · cases resolved
    subst own
    exact ⟨rfl, row.present reference, row.exact reference⟩
  | @apply function receiver arguments operand bound inner ih =>
    obtain ⟨a, first, applied⟩ := Expr.evaluate_apply_ok.mp evaluated
    obtain ⟨held, present, exact_⟩ := ih first
    refine ⟨Except.bind_ok.mpr ⟨a, held, applied⟩, ?_⟩
    simp only [Value.applied, present] at applied
    exact (Value.apply_ok exact_ applied).symm
  | @round receiver digits places operand bound counted inner ih =>
    obtain ⟨a, first, last⟩ := Expr.evaluate_round_ok.mp evaluated
    obtain ⟨held, present, exact_⟩ := ih first
    rw [present] at last
    obtain ⟨null, _⟩ | ⟨_, other, evaluatedDigits, rounded⟩ := last
    · cases null
    · cases Expr.eq_of_evaluate_fill row.column counted evaluatedDigits
      refine ⟨Except.bind_ok.mpr ⟨a, held, ?_⟩, (Value.round_ok exact_ rounded).symm⟩
      simpa only [Value.rounded, present, Bool.false_eq_true, if_false] using rounded

theorem ArgumentIn.evaluate {column : String} {change : Value → Value} {expr : Expr}
    {operand : Operand} {value : Value} (unchanged : ∀ value, change value = value)
    (compiled : ArgumentIn (.single table) column change expr operand)
    (evaluated : (expr.fill row.column).evaluate = .ok value) :
    operand.evaluate table row.column = .ok value := by
  cases compiled with
  | stored bound inner => exact (inner.evaluate evaluated).1
  | @value written number free evaluatedFree present =>
    cases Expr.eq_of_evaluate_fill row.column evaluatedFree evaluated
    exact congrArg Except.ok (unchanged value)

theorem ComparisonIn.evaluate {comparison : Comparison} {first other : Expr}
    {condition : Condition} {a b : Value}
    (compiled : ComparisonIn (.single table) comparison first other condition)
    (evaluated : (first.fill row.column).evaluate = .ok a)
    (evaluatedOther : (other.fill row.column).evaluate = .ok b) :
    condition.evaluate table row.column = comparison.decide a b := by
  cases compiled with
  | @stored left right inner bound innerOther =>
    have held := (inner.evaluate evaluated).1
    have heldOther := (innerOther.evaluate evaluatedOther).1
    cases innerOther with
    | column | apply | round =>
      simp only [Condition.evaluate, held, heldOther]
      rfl
  | @null left inner free evaluatedFree unordered =>
    obtain ⟨held, _⟩ := inner.evaluate evaluated
    cases Expr.eq_of_evaluate_fill row.column evaluatedFree evaluatedOther
    cases comparison with
    | equal | notEqual =>
      simp [Condition.evaluate, held, Comparison.decide, Value.isNull, bind, Except.bind,
        pure, Except.pure]
    | greater | greaterOrEqual | less | lessOrEqual => cases unordered
  | @value left column value number inner named free evaluatedFree present =>
    have held := (inner.evaluate evaluated).1
    cases Expr.eq_of_evaluate_fill row.column evaluatedFree evaluatedOther
    simp only [Condition.evaluate, held]
    rfl

theorem anyEqual_ok {column : String} {expr : Expr} {value : Value} {truth : Bool}
    {items : List Expr} {operands : List Operand}
    (each : List.Forall₂ (ArgumentIn (.single table) column id) items operands)
    (evaluated : Expr.anyEqual expr value (Expr.fillAll row.column items) = .ok truth) :
    Operand.anyEqual table row.column value operands = .ok truth := by
  induction each with
  | nil =>
    cases evaluated
    rfl
  | @cons first operand rest operands head _ ih =>
    obtain ⟨item, same, found, decided, last⟩ := Expr.anyEqual_cons_ok.mp evaluated
    refine Except.bind_ok.mpr ⟨item, head.evaluate (fun _ => rfl) found, ?_⟩
    refine Except.bind_ok.mpr ⟨same, decided, ?_⟩
    cases same with
    | true =>
      cases last
      rfl
    | false => exact ih last

theorem Test.patternValue_of_isPlain {kind : Test} (plain : (Method.test kind).isPlain = true)
    (value : Value) : kind.patternValue value = value := by
  cases kind with
  | contains | startsWith | endsWith => cases plain
  | _ => cases value <;> rfl

theorem Comparison.decide_under {comparison : Comparison} {left right : Value} {truth : Bool}
    (negated : Bool) (exactLeft : left.isExact) (exactRight : right.isExact)
    (decided : comparison.decide left right = .ok truth) :
    (comparison.under negated).decide left right = .ok (truth != negated) := by
  cases negated with
  | false => simpa [under] using decided
  | true => simpa [under, decided, Except.map] using decide_negate comparison exactLeft exactRight

/-- A test follows the evaluator's rule for its method. -/
theorem evaluateTest_ok {kind : Test} {receiver : Expr} {arguments : List Expr} {operand : Operand}
    {operands : List Operand} {column : String} {truth : Bool}
    (plain : (Method.test kind).isPlain = true) (other : kind ≠ .isIn)
    (arity : arguments.length = kind.arity)
    (inner : ArgumentIn (.single table) column id receiver operand)
    (each : List.Forall₂ (ArgumentIn (.single table) column kind.patternValue) arguments operands)
    (evaluated : ((Expr.call (.test kind) receiver arguments).fill row.column).evaluate =
      .ok (.bool truth)) :
    Condition.evaluateTest table row.column kind operand operands = .ok truth := by
  have unchanged := Test.patternValue_of_isPlain plain
  by_cases range : kind = .between
  · subst range
    obtain ⟨low, high, rfl⟩ := List.length_eq_two.mp arity
    obtain ⟨a, b, c, decision, first, second, third, decided, same⟩ :=
      Expr.evaluate_between_ok.mp evaluated
    cases same
    obtain _ | ⟨lowIn, _ | ⟨highIn, _ | _⟩⟩ := each
    have held := inner.evaluate (fun _ => rfl) first
    have heldLow := lowIn.evaluate unchanged second
    have heldHigh := highIn.evaluate unchanged third
    simp only [Condition.evaluateTest, held, heldLow, heldHigh]
    exact decided
  · obtain ⟨argument, rfl⟩ : ∃ argument, arguments = [argument] := by
      cases kind with
      | between => exact (range rfl).elim
      | _ => exact List.length_eq_one_iff.mp arity
    obtain ⟨a, b, decision, first, second, decided, same⟩ :=
      (Expr.evaluate_test_ok range other).mp evaluated
    cases same
    obtain _ | ⟨argumentIn, _ | _⟩ := each
    have held := inner.evaluate (fun _ => rfl) first
    have heldArgument := argumentIn.evaluate unchanged second
    cases kind with
    | between => exact (range rfl).elim
    | isIn => exact (other rfl).elim
    | _ =>
      simp only [Condition.evaluateTest, held, heldArgument]
      exact decided

theorem exact_fill {expr : Expr} {value : Value} (plain : expr.isPlain = true)
    (evaluated : (expr.fill row.column).evaluate = .ok value) : value.isExact = true :=
  Expr.isExact_evaluate _ (Expr.isPlain_fill row.exact expr plain) evaluated

theorem ConditionIn.evaluate {expr : Expr} {negated truth : Bool} {condition : Condition}
    (compiled : ConditionIn (.single table) expr negated condition) (plain : expr.isPlain = true)
    (evaluated : (expr.fill row.column).evaluateBool = .ok truth) :
    condition.evaluate table row.column = .ok (truth != negated) := by
  cases compiled with
  | @constant _ _ decided free evaluatedFree =>
    have same := Expr.evaluateBool_fill row.column evaluatedFree
    rw [evaluated] at same
    cases same
    rfl
  | @column reference qualifier _ number boolean resolved =>
    obtain ⟨held, _, _⟩ := (OperandIn.column resolved).evaluate (Expr.evaluateBool_ok.mp evaluated)
    simp only [Condition.evaluate, held]
    cases truth <;> cases negated <;> rfl
  | @compare comparison left right _ _ bound compared =>
    simp only [Expr.isPlain, Bool.and_eq_true] at plain
    obtain ⟨a, b, decision, first, second, decided, same⟩ :=
      Expr.evaluate_compare_ok.mp (Expr.evaluateBool_ok.mp evaluated)
    cases same
    rw [compared.evaluate first second]
    exact Comparison.decide_under negated (exact_fill plain.1 first)
      (exact_fill plain.2 second) decided
  | @mirrored comparison left right _ _ free bound compared =>
    simp only [Expr.isPlain, Bool.and_eq_true] at plain
    obtain ⟨a, b, decision, first, second, decided, same⟩ :=
      Expr.evaluate_compare_ok.mp (Expr.evaluateBool_ok.mp evaluated)
    cases same
    rw [compared.evaluate second first]
    have exactLeft := exact_fill plain.1 first
    have exactRight := exact_fill plain.2 second
    exact Comparison.decide_under negated exactRight exactLeft
      ((comparison.decide_mirror _ _).trans decided)
  | @isInNothing receiver operand _ bound inner =>
    obtain ⟨a, decision, first, member, same⟩ :=
      Expr.evaluate_isIn_ok.mp (Expr.evaluateBool_ok.mp evaluated)
    cases same
    cases member
    cases negated <;> rfl
  | @isIn receiver items operand operands reference _ member filled inner each =>
    obtain ⟨a, decision, first, member, same⟩ :=
      Expr.evaluate_isIn_ok.mp (Expr.evaluateBool_ok.mp evaluated)
    cases same
    have held := inner.evaluate (fun _ => rfl) first
    have heldEach := anyEqual_ok each member
    have tested : Condition.evaluateTest table row.column .isIn operand operands =
        .ok truth := by
      simp only [Condition.evaluateTest, held]
      exact heldEach
    simp only [Condition.evaluate, tested]
    rfl
  | @test kind receiver arguments operand operands reference _ other arity member inner each =>
    simp only [Expr.isPlain, Bool.and_eq_true] at plain
    have held := evaluateTest_ok plain.1.1 other arity inner each
      (Expr.evaluateBool_ok.mp evaluated)
    simp only [Condition.evaluate, held]
    rfl

/-- The conditions of a tree hold together as the clauses of its expression do. -/
theorem related_evaluate {expr : Expr} {negated truth : Bool} {tree : Predicate.Tree Condition}
    (related : Tree.Related (ClauseIn (.single table)) (expr.clauses negated) tree)
    (plain : expr.isPlain = true) (evaluated : (expr.fill row.column).evaluateBool = .ok truth) :
    tree.fold Connective.shortCircuit (Condition.evaluate table row.column) =
      .ok (truth != negated) := by
  fun_induction Expr.clauses expr negated generalizing truth tree with
  | case1 inner negated ih =>
    obtain ⟨decision, first, same⟩ := Expr.evaluate_not_ok.mp (Expr.evaluateBool_ok.mp evaluated)
    cases same
    rw [ih related plain first]
    cases decision <;> cases negated <;> rfl
  | case2 connective left right negated ihLeft ihRight =>
    simp only [Expr.isPlain, Bool.and_eq_true] at plain
    obtain ⟨decision, decided, same⟩ :=
      Expr.evaluate_connect_ok.mp (Expr.evaluateBool_ok.mp evaluated)
    cases same
    cases related with
    | branch relatedLeft relatedRight =>
      exact Connective.shortCircuit_under (fun a first => ihLeft relatedLeft plain.1 first)
        (fun a second => ihRight relatedRight plain.2 second) decided
  | case3 expr negated noNegation noConnective =>
    cases related with
    | leaf compiled => exact ConditionIn.evaluate compiled plain evaluated

/-- Wherever the expression itself decides about a row, the nodes that it is compiled to decide the
same. -/
theorem compile_evaluate {expr : Expr} {before after : Parameters} {predicate : Predicate}
    {truth : Bool} (plain : expr.isPlain = true)
    (compiled : expr.compile (.single table) before = (.ok predicate, after))
    (fits : (expr.clauses false).Fits)
    (evaluated : (expr.fill row.column).evaluateBool = .ok truth) :
    predicate.evaluate? table row.column = some (.ok truth) := by
  obtain ⟨tree, rfl, related, _⟩ := Expr.compile_ok compiled
  have held := related_evaluate related plain evaluated
  rw [Bool.bne_false] at held
  unfold Predicate.evaluate?
  rw [Predicate.read?_nodes (related.fits fits), Option.map_some,
    Tree.fold_leftNested _ _ Connective.shortCircuit_assoc, held]

end

def ExactRow.sevens : ExactRow where
  column _ := .int32 7
  present _ := rfl
  exact _ := rfl

theorem compile_evaluate_sevens :
    ∃ predicate after,
      (Expr.neitherOlderNorNameless ⟨"", "", []⟩).compile (.single ⟨"", "", []⟩) .empty =
        (.ok predicate, after) ∧
      predicate.evaluate? ⟨"", "", []⟩ ExactRow.sevens.column = some (.ok true) := by
  refine ⟨_, _, rfl, ?_⟩
  have compiled : (Expr.neitherOlderNorNameless ⟨"", "", []⟩).compile (.single ⟨"", "", []⟩)
      .empty = (.ok _, _) := rfl
  exact compile_evaluate (by decide) compiled (by decide) rfl

end TypedSql
