import Mathlib.Data.Int.Order.Basic
import TypedSql.Proofs.Compilation.Clauses
import TypedSql.Proofs.Meaning.Interpretation

namespace TypedSql

open Predicate (Tree)

/-- The tables of a join have aliases of their own, so each alias leads back to its table. -/
theorem Scope.table?_of_resolve {scope : Scope} {table : Table} {qualifier : Option Alias}
    (resolved : scope.resolve table = .ok qualifier) : scope.table? qualifier = some table := by
  cases scope with
  | single own =>
    simp only [resolve] at resolved
    split at resolved
    · rename_i same
      cases resolved
      exact congrArg some same.symm
    · cases resolved
  | aliased aliases =>
    simp only [resolve, Aliases.require, Aliases.get?] at resolved
    cases found : aliases.tables.idxOf? table with
    | none => simp [found, Except.map] at resolved
    | some place =>
      simp only [found, Option.map_some, Except.map, Except.ok.injEq] at resolved
      subst resolved
      obtain ⟨inRange, isTable, _⟩ := List.idxOf?_eq_some_iff.mp found
      have fits : place < 256 := by
        have room := aliases.length_le
        simp only [Aliases.capacity] at room
        omega
      have code : place.toUInt8.toNat = place := UInt8.toNat_ofNat_of_lt fits
      simp only [table?, code]
      rw [List.getElem?_eq_getElem inRange]
      exact congrArg some isTable

namespace Interpretation

variable {Rank : Type} [LinearOrder Rank] (interpretation : Interpretation Rank)

theorem compare_under (comparison : Comparison) (negated : Bool) (left right : Value) :
    interpretation.compare (comparison.under negated) left right =
      (interpretation.compare comparison left right).under negated := by
  cases negated with
  | false => rfl
  | true =>
    simp only [compare, Comparison.under, Truth.under, if_true, Comparison.relates_negate]
    split
    · rfl
    · rw [Truth.not_ofBool, decide_not]

theorem compare_mirror (comparison : Comparison) (left right : Value) :
    interpretation.compare comparison.mirror right left =
      interpretation.compare comparison left right := by
  simp only [compare, Comparison.relates_mirror, Bool.or_comm]

theorem compareNull?_under (comparison : Comparison) (negated : Bool) (value : Value) :
    compareNull? (comparison.under negated) value =
      (compareNull? comparison value).map (Truth.under negated) := by
  cases negated <;> cases comparison <;>
    simp [Comparison.under, Comparison.negate, compareNull?, Truth.under, Truth.not_ofBool]

theorem compareNull?_mirror (comparison : Comparison) (value : Value) :
    compareNull? comparison.mirror value = compareNull? comparison value := by
  cases comparison <;> rfl

end Interpretation

namespace Expr

variable {Rank : Type} [LinearOrder Rank] (interpretation : Interpretation Rank)

theorem compareTruth?_under (comparison : Comparison) (negated : Bool) (left right : Expr) :
    compareTruth? interpretation (comparison.under negated) left right =
      (compareTruth? interpretation comparison left right).map (Truth.under negated) := by
  simp only [compareTruth?]
  cases left.value? interpretation with
  | none => rfl
  | some a =>
    cases right.value? interpretation with
    | none => rfl
    | some b =>
      simp only [Option.bind_eq_bind, Option.bind_some, Interpretation.compareNull?_under,
        interpretation.compare_under]
      split
      · rfl
      · split <;> rfl

/-- One side at most is without columns, so that no two nulls are written. -/
theorem compareTruth?_mirror (comparison : Comparison) {left right : Expr}
    (bound : right.isBound = true) :
    compareTruth? interpretation comparison.mirror right left =
      compareTruth? interpretation comparison left right := by
  simp only [compareTruth?, bound]
  cases left.value? interpretation with
  | none => cases right.value? interpretation <;> rfl
  | some a =>
    cases right.value? interpretation with
    | none => rfl
    | some b =>
      simp [Interpretation.compareNull?_mirror, interpretation.compare_mirror]

end Expr

section

variable {Rank : Type} (interpretation : Interpretation Rank) {scope : Scope}

theorem OperandIn.stored {expr : Expr} {operand : Operand}
    (compiled : OperandIn scope expr operand) :
    ∃ value, expr.stored? interpretation = some value ∧
      operand.value? interpretation scope = some value := by
  induction compiled with
  | @column reference qualifier resolved =>
    refine ⟨interpretation.column reference, rfl, ?_⟩
    simp [Operand.value?, Scope.table?_of_resolve resolved]
  | @apply function receiver arguments operand bound inner ih =>
    obtain ⟨value, read, held⟩ := ih
    exact ⟨interpretation.apply function value, by simp [Expr.stored?, read],
      by simp [Operand.value?, held]⟩
  | @round receiver digits places operand bound counted inner ih =>
    obtain ⟨value, read, held⟩ := ih
    exact ⟨interpretation.round places value, by simp [Expr.stored?, counted, read],
      by simp [Operand.value?, held]⟩

theorem OperandIn.value {expr : Expr} {operand : Operand}
    (compiled : OperandIn scope expr operand) :
    ∃ value, expr.value? interpretation = some value ∧
      operand.value? interpretation scope = some value := by
  obtain ⟨value, read, held⟩ := compiled.stored interpretation
  exact ⟨value, by simp [Expr.value?, compiled.isBound, read], held⟩

theorem ArgumentIn.receiver {column : String} {expr : Expr} {operand : Operand}
    (compiled : ArgumentIn scope column id expr operand) :
    ∃ value, expr.value? interpretation = some value ∧
      operand.value? interpretation scope = some value := by
  cases compiled with
  | stored bound inner => exact inner.value interpretation
  | @value value number free evaluated present =>
    exact ⟨value, by simp [Expr.value?, free, evaluated, Except.toOption], rfl⟩

theorem ArgumentIn.argument {column : String} {change : Value → Value} {expr : Expr}
    {operand : Operand} (compiled : ArgumentIn scope column change expr operand) :
    ∃ argument, expr.argument? interpretation change = some argument ∧
      operand.argument? interpretation scope = some argument := by
  cases compiled with
  | stored bound inner =>
    obtain ⟨value, read, held⟩ := inner.stored interpretation
    refine ⟨.stored value, by simp [Expr.argument?, bound, read], ?_⟩
    cases inner with
    | column | apply | round => simp [Operand.argument?, held]
  | @value value number free evaluated present =>
    exact ⟨.given (change value), by simp [Expr.argument?, free, evaluated, Except.toOption], rfl⟩

theorem ArgumentIn.arguments {column : String} {change : Value → Value} {items : List Expr}
    {operands : List Operand}
    (each : List.Forall₂ (ArgumentIn scope column change) items operands) :
    ∃ arguments, items.mapM (Expr.argument? interpretation change) = some arguments ∧
      operands.mapM (Operand.argument? interpretation scope) = some arguments := by
  induction each with
  | nil => exact ⟨[], rfl, rfl⟩
  | cons first _ ih =>
    obtain ⟨argument, read, held⟩ := first.argument interpretation
    obtain ⟨arguments, readRest, heldRest⟩ := ih
    exact ⟨argument :: arguments, by simp [List.mapM_cons, read, readRest],
      by simp [List.mapM_cons, held, heldRest]⟩

theorem Expr.testTruth?_of_ne {kind : Test} (other : kind ≠ .isIn) (receiver : Expr)
    (arguments : List Expr) :
    testTruth? interpretation kind receiver arguments = (do
      return interpretation.test kind (← receiver.value? interpretation)
        (← arguments.mapM (argument? interpretation kind.patternValue))) := by
  cases kind with
  | isIn => exact (other rfl).elim
  | _ => rfl

theorem Expr.testTruth?_isIn {items : List Expr} (filled : items ≠ []) (receiver : Expr) :
    testTruth? interpretation .isIn receiver [.list items] = (do
      return interpretation.test .isIn (← receiver.value? interpretation)
        (← items.mapM (argument? interpretation id))) := by
  cases items with
  | nil => exact (filled rfl).elim
  | cons first rest => rfl

variable [LinearOrder Rank]

theorem ComparisonIn.truth {comparison : Comparison} {first other : Expr} {condition : Condition}
    (compiled : ComparisonIn scope comparison first other condition) :
    ∃ truth, Expr.compareTruth? interpretation comparison first other = some truth ∧
      condition.truth? interpretation scope = some truth := by
  cases compiled with
  | @stored left right inner bound innerOther =>
    obtain ⟨a, read, held⟩ := inner.value interpretation
    obtain ⟨b, readOther, heldOther⟩ := innerOther.value interpretation
    refine ⟨interpretation.compare comparison a b,
      by simp [Expr.compareTruth?, read, readOther, inner.isBound, bound], ?_⟩
    cases innerOther with
    | column | apply | round => simp [Condition.truth?, held, heldOther]
  | @null left inner free evaluated unordered =>
    obtain ⟨a, read, held⟩ := inner.value interpretation
    have readOther : other.value? interpretation = some .null := by
      simp [Expr.value?, free, evaluated, Except.toOption]
    obtain ⟨truth, decided⟩ :
        ∃ truth, Interpretation.compareNull? comparison a = some truth := by
      cases comparison with
      | equal | notEqual => exact ⟨_, rfl⟩
      | greater | greaterOrEqual | less | lessOrEqual => cases unordered
    exact ⟨truth, by simp [Expr.compareTruth?, read, readOther, inner.isBound, free, Value.isNull,
      decided], by simp [Condition.truth?, held, decided]⟩
  | @value left column value number inner named free evaluated present =>
    obtain ⟨a, read, held⟩ := inner.value interpretation
    have readOther : other.value? interpretation = some value := by
      simp [Expr.value?, free, evaluated, Except.toOption]
    exact ⟨interpretation.compare comparison a value,
      by simp [Expr.compareTruth?, read, readOther, inner.isBound, present],
      by simp [Condition.truth?, held, Operand.value?]⟩

/-- A boolean column is its own value, and equals `TRUE` or `FALSE` accordingly. -/
theorem Interpretation.compare_bool {value : Value} {truth : Truth}
    (own : value.truth? = some truth) (negated : Bool) :
    interpretation.compare .equal value (.bool !negated) = truth.under negated := by
  have distinct := interpretation.rank_bool
  cases value with
  | null =>
    cases own
    cases negated <;> rfl
  | bool inner =>
    cases own
    cases inner <;> cases negated <;>
      simp [compare, Value.isNull, Comparison.relates, Truth.under, Truth.ofBool, Truth.not,
        distinct, distinct.symm]
  | _ => cases own

theorem ConditionIn.truth {expr : Expr} {negated : Bool} {condition : Condition}
    (compiled : ConditionIn scope expr negated condition) :
    ∃ truth, expr.clauseTruth? interpretation = some truth ∧
      condition.truth? interpretation scope = some (truth.under negated) := by
  cases compiled with
  | @constant _ _ truth free evaluated =>
    exact ⟨.ofBool truth, by simp [Expr.clauseTruth?, free, evaluated, Except.toOption],
      congrArg some (Truth.under_ofBool negated truth).symm⟩
  | @column reference qualifier _ number boolean resolved =>
    obtain ⟨truth, own⟩ :=
      Option.isSome_iff_exists.mp (interpretation.column_bool reference boolean)
    refine ⟨truth, by simp [Expr.clauseTruth?, Expr.isBound, own], ?_⟩
    simp [Condition.truth?, Operand.value?, Scope.table?_of_resolve resolved,
      interpretation.compare_bool own]
  | @compare comparison left right _ _ bound compared =>
    obtain ⟨truth, read, held⟩ := compared.truth interpretation
    rw [Expr.compareTruth?_under] at read
    obtain ⟨inner, readInner, rfl⟩ := Option.map_eq_some_iff.mp read
    exact ⟨inner, by simp [Expr.clauseTruth?, Expr.isBound, bound, readInner], held⟩
  | @mirrored comparison left right _ _ free bound compared =>
    obtain ⟨truth, read, held⟩ := compared.truth interpretation
    rw [Expr.compareTruth?_under, Expr.compareTruth?_mirror interpretation comparison bound] at read
    obtain ⟨inner, readInner, rfl⟩ := Option.map_eq_some_iff.mp read
    exact ⟨inner, by simp [Expr.clauseTruth?, Expr.isBound, bound, readInner], held⟩
  | @isInNothing receiver operand _ bound inner =>
    refine ⟨.fails, by simp [Expr.clauseTruth?, Expr.isBound, bound, Expr.testTruth?], ?_⟩
    cases negated <;> rfl
  | @isIn receiver items operand operands reference _ member filled inner each =>
    have bound := (Expr.isBound_iff _).mpr (List.ne_nil_of_mem member)
    obtain ⟨value, read, held⟩ := inner.receiver interpretation
    obtain ⟨arguments, readEach, heldEach⟩ := ArgumentIn.arguments interpretation each
    exact ⟨interpretation.test .isIn value arguments,
      by simp [Expr.clauseTruth?, bound, Expr.testTruth?_isIn interpretation filled, read,
        readEach],
      by simp [Condition.truth?, held, heldEach]⟩
  | @test kind receiver arguments operand operands reference _ other arity member inner each =>
    have bound := (Expr.isBound_iff _).mpr (List.ne_nil_of_mem member)
    obtain ⟨value, read, held⟩ := inner.receiver interpretation
    obtain ⟨given, readEach, heldEach⟩ := ArgumentIn.arguments interpretation each
    exact ⟨interpretation.test kind value given,
      by simp [Expr.clauseTruth?, bound, Expr.testTruth?_of_ne interpretation other, read,
        readEach],
      by simp [Condition.truth?, held, heldEach]⟩

/-- The truth value of a clause, which its negation turns round. -/
def Clause.truth? (clause : Clause) : Option Truth :=
  (clause.expr.clauseTruth? interpretation).map (Truth.under clause.negated)

theorem related_truth {clauses : Predicate.Tree Clause} {tree : Predicate.Tree Condition}
    (related : Tree.Related (ClauseIn scope) clauses tree) :
    ∃ truth, clauses.fold Connective.truth? (Clause.truth? interpretation) = some truth ∧
      tree.fold Connective.truth? (Condition.truth? interpretation scope) = some truth := by
  induction related with
  | leaf compiled =>
    obtain ⟨truth, read, held⟩ := ConditionIn.truth interpretation compiled
    exact ⟨_, by simp [Tree.fold, Clause.truth?, read], held⟩
  | @branch connective left right left' right' _ _ first last =>
    obtain ⟨a, read, held⟩ := first
    obtain ⟨b, readLast, heldLast⟩ := last
    exact ⟨connective.truth a b, by simp [Tree.fold, read, readLast, Connective.truth?],
      by simp [Tree.fold, held, heldLast, Connective.truth?]⟩

/-- A negation may move inwards to the clauses. -/
theorem fold_clauses (expr : Expr) (negated : Bool) :
    (expr.clauses negated).fold Connective.truth? (Clause.truth? interpretation) =
      (expr.truth? interpretation).map (Truth.under negated) := by
  fun_induction Expr.clauses expr negated with
  | case1 inner negated ih =>
    rw [ih, Expr.truth?, Option.map_map]
    exact congrArg (Option.map · _) (funext fun truth => (truth.under_not negated).symm)
  | case2 connective left right negated ihLeft ihRight =>
    rw [Tree.fold, ihLeft, ihRight, Expr.truth?, Connective.truth?_under]
  | case3 expr negated noNegation noConnective =>
    rw [Tree.fold, Expr.truth?.eq_3 interpretation expr noNegation noConnective, Clause.truth?]

/-- The nodes of a tree have the truth value of the expression whose clauses it holds. -/
theorem nodes_truth {expr : Expr} {tree : Predicate.Tree Condition}
    (related : Tree.Related (ClauseIn scope) (expr.clauses false) tree) (fits : tree.Fits) :
    ∃ truth, expr.truth? interpretation = some truth ∧
      Predicate.truth? interpretation scope ⟨tree.nodes⟩ = some truth := by
  obtain ⟨truth, read, held⟩ := related_truth interpretation related
  refine ⟨truth, ?_, ?_⟩
  · rw [fold_clauses, show Truth.under false = id from rfl, Option.map_id] at read
    exact read
  · simp only [Predicate.truth?, Predicate.read?_nodes fits]
    rw [← held]
    exact Tree.fold_leftNested _ _ Connective.truth?_assoc tree

/-- Whatever the row holds and the functions, the tests and the order are, the nodes of a compiled
expression have the truth value of the expression. -/
theorem compile_truth {expr : Expr} {before after : Parameters} {predicate : Predicate}
    (compiled : expr.compile scope before = (.ok predicate, after))
    (fits : (expr.clauses false).Fits) :
    ∃ truth, expr.truth? interpretation = some truth ∧
      predicate.truth? interpretation scope = some truth := by
  obtain ⟨tree, rfl, related, _⟩ := Expr.compile_ok compiled
  exact nodes_truth interpretation related (related.fits fits)

end

/-- A row of sevens in which no truth value is known. Numbers have their order, functions change
nothing. -/
def Interpretation.sevens : Interpretation Int where
  column reference := if reference.type = .bool then .null else .int32 7
  column_bool reference boolean := by simp [boolean, Value.truth?]
  rank value := (value.toInt64?.map Int64.toInt).getD 0
  rank_bool := by decide
  apply _ value := value
  round _ value := value
  test _ _ _ := .unknown

theorem compile_truth_sevens :
    ∃ predicate after,
      (Expr.neitherOlderNorNameless ⟨"", "", []⟩).compile (.single ⟨"", "", []⟩) .empty =
        (.ok predicate, after) ∧
      predicate.truth? .sevens (.single ⟨"", "", []⟩) = some .holds := by
  refine ⟨_, _, rfl, ?_⟩
  have compiled : (Expr.neitherOlderNorNameless ⟨"", "", []⟩).compile (.single ⟨"", "", []⟩)
      .empty = (.ok _, _) := rfl
  obtain ⟨truth, read, held⟩ := compile_truth .sevens compiled (by decide)
  rw [held, ← read]
  rfl

end TypedSql
