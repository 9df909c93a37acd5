import TypedSql.Proofs.Compilation.Condition
import TypedSql.Proofs.Tree

namespace TypedSql

open Predicate (Tree)

/-- A part of an expression that becomes one condition, and whether it is negated there. -/
structure Clause where
  expr : Expr
  negated : Bool

/-- The clauses of an expression under their connectives. -/
def Expr.clauses : Expr → Bool → Predicate.Tree Clause
  | .not inner, negated => inner.clauses !negated
  | .connect connective left right, negated =>
    .branch (if negated then connective.dual else connective) (left.clauses negated)
      (right.clauses negated)
  | expr, negated => .leaf ⟨expr, negated⟩

/-- What is collected from an expression through negations and connectives is collected from its
clauses. -/
theorem Expr.flatMap_clauses {α : Type} (collect : Expr → List α)
    (negation : ∀ inner, collect (.not inner) = collect inner)
    (connection : ∀ connective left right,
      collect (.connect connective left right) = collect left ++ collect right)
    (expr : Expr) (negated : Bool) :
    (expr.clauses negated).leaves.flatMap (fun clause => collect clause.expr) = collect expr := by
  fun_induction Expr.clauses expr negated with
  | case1 inner negated ih => rw [ih, negation]
  | case2 connective left right negated ihLeft ihRight =>
    rw [Predicate.Tree.leaves, List.flatMap_append, ihLeft, ihRight, connection]
  | case3 => simp [Predicate.Tree.leaves]

/-- `!(9 < Age || Name == NULL)`, about the columns of a table. -/
def Expr.neitherOlderNorNameless (table : Table) : Expr :=
  .not (.connect .or (.compare .less (.literal (.int32 9)) (.column ⟨table, "Age", .int32⟩))
    (.compare .equal (.column ⟨table, "Name", .string⟩) (.literal .null)))

example (table : Table) :
    (Expr.neitherOlderNorNameless table).clauses false =
      .branch .and
        (.leaf ⟨.compare .less (.literal (.int32 9)) (.column ⟨table, "Age", .int32⟩), true⟩)
        (.leaf ⟨.compare .equal (.column ⟨table, "Name", .string⟩) (.literal .null), true⟩) :=
  rfl

def ClauseIn (scope : Scope) (clause : Clause) (condition : Condition) : Prop :=
  ConditionIn scope clause.expr clause.negated condition

def Predicate.Tree.parameters (tree : Predicate.Tree Condition) : List Parameter :=
  tree.leaves.flatMap Condition.parameters

namespace Compile

variable {scope : Scope} {before after : Parameters}

/-- Each clause becomes a condition in its place, and the parameters are recorded in the order of
the conditions. -/
theorem tree_ok {expr : Expr} {negated : Bool} {result : Predicate.Tree Condition}
    (compiled : tree scope expr negated before = (.ok result, after)) :
    Tree.Related (ClauseIn scope) (expr.clauses negated) result ∧
      Parameters.Extends before after result.parameters := by
  fun_induction Expr.clauses expr negated generalizing before after result with
  | case1 inner negated ih => exact ih compiled
  | case2 connective left right negated ihLeft ihRight =>
    obtain ⟨first, middle, compiledLeft, compiled⟩ := bind_ok.mp compiled
    obtain ⟨last, final, compiledRight, compiled⟩ := bind_ok.mp compiled
    obtain ⟨rfl, rfl⟩ := pure_ok.mp compiled
    obtain ⟨relatedLeft, extension⟩ := ihLeft compiledLeft
    obtain ⟨relatedRight, further⟩ := ihRight compiledRight
    refine ⟨.branch relatedLeft relatedRight, ?_⟩
    simpa [Tree.parameters, Tree.leaves] using extension.trans further
  | case3 expr negated noNegation noConnective =>
    rw [tree.eq_3 scope expr negated noNegation noConnective] at compiled
    obtain ⟨written, middle, first, last⟩ := bind_ok.mp compiled
    obtain ⟨rfl, rfl⟩ := pure_ok.mp last
    obtain ⟨related, extension⟩ := condition_ok first
    refine ⟨.leaf related, ?_⟩
    simpa [Tree.parameters, Tree.leaves] using extension

namespace Appends

theorem column (scope : Scope) (reference : ColumnRef) : Appends (column scope reference) :=
  (lift _).bind fun _ => pure _

theorem places (expr : Expr) : (arguments : List Expr) → Appends (places expr arguments)
  | [] => fail expr .roundDigitsNotLiteral
  | first :: rest => by
    refine (lift first.evaluate).bind fun value => ?_
    split
    · exact pure _
    · exact fail expr .roundDigitsNotLiteral

theorem operand (scope : Scope) : (expr : Expr) → Appends (operand scope expr)
  | .column reference => column scope reference
  | .call method receiver arguments => by
    have wrapped : ∀ wrap : Operand → Operand, Appends
        (if receiver.isBound = true then do return wrap (← Compile.operand scope receiver)
          else Compile.fail (.call method receiver arguments) .columnsInArguments) := by
      intro wrap
      split
      · exact (operand scope receiver).bind fun inner => pure _
      · exact fail _ _
    simp only [Compile.operand]
    cases method with
    | apply function => exact (pure _).bind wrapped
    | round => exact (map _ (places _ arguments)).bind wrapped
    | average | test kind => exact (fail _ _).bind wrapped
  | .arithmetic .. | .literal _ | .list _ | .compare .. | .connect .. | .not _ => fail _ _

theorem argument (scope : Scope) (hint : Option String) (change : Value → Value) (expr : Expr) :
    Appends (argument scope hint change expr) := by
  unfold Compile.argument
  split
  · exact operand scope expr
  · refine (lift expr.evaluate).bind fun value => ?_
    split
    · exact fail expr .nullArgument
    · exact parameter hint (change value)

theorem compared (scope : Scope) (comparison : Comparison) (bound other : Expr) :
    Appends (compared scope comparison bound other) := by
  refine (operand scope bound).bind fun first => ?_
  split
  · exact (operand scope other).bind fun other => pure _
  · refine (lift _).bind fun value => ?_
    split
    · split
      · exact fail _ .orderingWithNull
      · exact pure _
    · exact (parameter _ value).bind fun other => pure _

theorem comparison (scope : Scope) (written : Comparison) (left right : Expr)
    (negated : Bool) : Appends (comparison scope written left right negated) :=
  compared scope _ _ _

theorem test (scope : Scope) (expr : Expr) (kind : Test) (receiver : Expr)
    (arguments : List Expr) (negated : Bool) :
    Appends (test scope expr kind receiver arguments negated) := by
  unfold Compile.test
  simp only
  split
  · exact fail expr .argumentCount
  · refine (argument scope _ id receiver).bind fun first => ?_
    split
    · exact pure _
    · exact (mapM (argument scope _ id)).bind fun operands => pure _
    · exact fail expr .listExpected
    · exact (mapM (argument scope _ _)).bind fun operands => pure _

theorem condition (scope : Scope) (expr : Expr) (negated : Bool) :
    Appends (condition scope expr negated) := by
  unfold Compile.condition
  split
  · exact (lift expr.evaluateBool).bind fun truth => pure _
  · split
    · split
      · exact fail _ .nonBooleanColumn
      · exact (column scope _).bind fun operand => (parameter _ _).bind fun other => pure _
    · exact comparison scope _ _ _ negated
    · exact test scope _ _ _ _ negated
    all_goals exact fail _ _

theorem tree (scope : Scope) (expr : Expr) (negated : Bool) :
    Appends (tree scope expr negated) := by
  fun_induction Expr.clauses expr negated with
  | case1 inner negated ih => exact ih
  | case2 connective left right negated ihLeft ihRight =>
    exact ihLeft.bind fun first => ihRight.bind fun last => pure _
  | case3 expr negated noNegation noConnective =>
    rw [tree.eq_3 scope expr negated noNegation noConnective]
    exact (condition scope expr negated).bind fun written => pure _

end Appends

end Compile

namespace Expr

variable {expr : Expr} {scope : Scope} {before after : Parameters}

theorem compile_ok {predicate : Predicate}
    (compiled : expr.compile scope before = (.ok predicate, after)) :
    ∃ tree : Predicate.Tree Condition, predicate = ⟨tree.nodes⟩ ∧
      Tree.Related (ClauseIn scope) (expr.clauses false) tree ∧
      Parameters.Extends before after tree.parameters := by
  obtain ⟨tree, middle, first, last⟩ := Compile.bind_ok.mp compiled
  obtain ⟨rfl, rfl⟩ := Compile.pure_ok.mp last
  exact ⟨tree, rfl, Compile.tree_ok first⟩

theorem compile_appends (expr : Expr) (scope : Scope) : Compile.Appends (expr.compile scope) :=
  (Compile.Appends.tree scope expr false).bind fun _ => .pure _

end Expr

end TypedSql
