import Mathlib.Logic.Relation
import TypedSql.Proofs.Compilation.Clauses

namespace TypedSql

open Relation (ReflTransGen)

namespace Expr

/-- Whether the expression is neither a negation nor a connective. -/
def isClause : Expr → Bool
  | not _ | connect .. => false
  | _ => true

/-- Whether negations stand in front of clauses only. -/
def isNegationNormal : Expr → Bool
  | not inner => inner.isClause
  | connect _ left right => left.isNegationNormal && right.isNegationNormal
  | _ => true

def negatedIf (negated : Bool) (expr : Expr) : Expr :=
  if negated then not expr else expr

/-- The expression, negated or not, with all negations pushed to its clauses. -/
def pushed : Expr → Bool → Expr
  | not inner, negated => inner.pushed !negated
  | connect connective left right, negated =>
    connect (if negated then connective.dual else connective) (left.pushed negated)
      (right.pushed negated)
  | expr, negated => expr.negatedIf negated

def negationNormal (expr : Expr) : Expr :=
  expr.pushed false

/-- Somewhere above the clauses a negation cancels another one, or it moves to both sides of a
connective, which becomes its dual. -/
inductive Pushes : Expr → Expr → Prop where
  | cancel (inner : Expr) : Pushes (.not (.not inner)) inner
  | swap (connective : Connective) (left right : Expr) :
      Pushes (.not (.connect connective left right))
        (.connect connective.dual (.not left) (.not right))
  | not {inner inner' : Expr} (within : Pushes inner inner') : Pushes (.not inner) (.not inner')
  | left {connective : Connective} {left left' right : Expr} (within : Pushes left left') :
      Pushes (.connect connective left right) (.connect connective left' right)
  | right {connective : Connective} {left right right' : Expr} (within : Pushes right right') :
      Pushes (.connect connective left right) (.connect connective left right')

variable {expr other : Expr}

theorem isNegationNormal_negatedIf (clause : expr.isClause = true) (negated : Bool) :
    (expr.negatedIf negated).isNegationNormal = true := by
  cases negated with
  | true => exact clause
  | false =>
    cases expr with
    | not | connect => cases clause
    | _ => rfl

theorem pushed_of_isClause (clause : expr.isClause = true) (negated : Bool) :
    expr.pushed negated = expr.negatedIf negated := by
  cases expr with
  | not | connect => cases clause
  | _ => rfl

theorem isNegationNormal_pushed (expr : Expr) (negated : Bool) :
    (expr.pushed negated).isNegationNormal = true := by
  fun_induction pushed expr negated with
  | case1 inner negated ih => exact ih
  | case2 connective left right negated ihLeft ihRight =>
    rw [isNegationNormal, ihLeft, ihRight]
    rfl
  | case3 expr negated noNegation noConnective =>
    exact isNegationNormal_negatedIf (isClause.eq_3 expr noNegation noConnective) negated

theorem negationNormal_of_isNegationNormal (normal : expr.isNegationNormal = true) :
    expr.negationNormal = expr := by
  fun_induction isNegationNormal expr with
  | case1 inner => exact pushed_of_isClause normal true
  | case2 connective left right ihLeft ihRight =>
    rw [Bool.and_eq_true] at normal
    exact congrArg₂ (connect connective) (ihLeft normal.1) (ihRight normal.2)
  | case3 expr noNegation noConnective => exact pushed.eq_3 expr false noNegation noConnective

theorem reaches_connect {connective : Connective} {left left' right right' : Expr}
    (first : ReflTransGen Pushes left left') (second : ReflTransGen Pushes right right') :
    ReflTransGen Pushes (connect connective left right) (connect connective left' right') :=
  (first.lift (connect connective · right) fun _ _ => .left).trans
    (second.lift (connect connective left') fun _ _ => .right)

theorem reaches_pushed (expr : Expr) (negated : Bool) :
    ReflTransGen Pushes (expr.negatedIf negated) (expr.pushed negated) := by
  fun_induction pushed expr negated with
  | case1 inner negated ih =>
    cases negated with
    | false => exact ih
    | true => exact .head (.cancel inner) ih
  | case2 connective left right negated ihLeft ihRight =>
    cases negated with
    | false => exact reaches_connect ihLeft ihRight
    | true => exact .head (.swap connective left right) (reaches_connect ihLeft ihRight)
  | case3 expr negated => exact .refl

section

variable {β : Type} {walk : Expr → Bool → β} {join : Connective → β → β → β}
  (negation : ∀ inner negated, walk (.not inner) negated = walk inner !negated)
  (connection : ∀ connective left right negated,
    walk (.connect connective left right) negated =
      join (if negated then connective.dual else connective) (walk left negated)
        (walk right negated))

include negation connection

/-- What carries negations along and swaps connectives under them does not tell where a negation
stands. -/
theorem Pushes.walk_eq (pushes : expr.Pushes other) (negated : Bool) :
    walk expr negated = walk other negated := by
  induction pushes generalizing negated with
  | cancel inner => rw [negation, negation, Bool.not_not]
  | swap connective left right =>
    simp only [negation, connection]
    cases negated with
    | false => rfl
    | true => rw [if_neg (by decide), if_pos rfl, Connective.dual_dual]
  | not within ih => rw [negation, negation, ih]
  | left within ih => rw [connection, connection, ih]
  | right within ih => rw [connection, connection, ih]

theorem walk_eq_of_reaches (reached : ReflTransGen Pushes expr other) (negated : Bool) :
    walk expr negated = walk other negated := by
  induction reached with
  | refl => rfl
  | tail _ step ih => exact ih.trans (step.walk_eq negation connection negated)

end

theorem negationNormal_of_reaches (reached : ReflTransGen Pushes expr other) :
    expr.negationNormal = other.negationNormal :=
  walk_eq_of_reaches (fun _ _ => rfl) (fun _ _ _ _ => rfl) reached false

end Expr

namespace Compile

def branch (connective : Connective) (left right : Compile (Predicate.Tree Condition)) :
    Compile (Predicate.Tree Condition) := do
  return .branch connective (← left) (← right)

theorem tree_eq_of_reaches {expr other : Expr} (reached : ReflTransGen Expr.Pushes expr other)
    (scope : Scope) (negated : Bool) : tree scope expr negated = tree scope other negated := by
  have connection : ∀ connective left right negated,
      tree scope (.connect connective left right) negated =
        branch (if negated then connective.dual else connective) (tree scope left negated)
          (tree scope right negated) := fun _ _ _ _ => rfl
  exact Expr.walk_eq_of_reaches (fun _ _ => rfl) connection reached negated

end Compile

theorem Expr.compile_of_reaches {expr other : Expr} (reached : ReflTransGen Pushes expr other)
    (scope : Scope) : expr.compile scope = other.compile scope := by
  rw [compile, compile, Compile.tree_eq_of_reaches reached]

/-- An expression compiles as its negation normal form does, to the same nodes and parameters or
with the same error, whatever was recorded before. In whatever order negations are pushed inwards,
it is this form that they end in. -/
theorem compile_negationNormal (expr : Expr) (scope : Scope) (before : Parameters) :
    expr.negationNormal.compile scope before = expr.compile scope before ∧
      expr.negationNormal.isNegationNormal = true ∧
      ∀ other : Expr, other.isNegationNormal = true →
        (ReflTransGen Expr.Pushes expr other ↔ other = expr.negationNormal) := by
  have reached : ReflTransGen Expr.Pushes expr expr.negationNormal :=
    Expr.reaches_pushed expr false
  refine ⟨?_, Expr.isNegationNormal_pushed expr false, fun other normal => ⟨?_, ?_⟩⟩
  · rw [Expr.compile_of_reaches reached]
  · intro reachedOther
    rw [Expr.negationNormal_of_reaches reachedOther,
      Expr.negationNormal_of_isNegationNormal normal]
  · rintro rfl
    exact reached

theorem compile_negationNormal_neither :
    let table : Table := ⟨"", "", []⟩
    let expr := Expr.neitherOlderNorNameless table
    let normal : Expr := .connect .and
      (.not (.compare .less (.literal (.int32 9)) (.column ⟨table, "Age", .int32⟩)))
      (.not (.compare .equal (.column ⟨table, "Name", .string⟩) (.literal .null)))
    normal.isNegationNormal = true ∧ ReflTransGen Expr.Pushes expr normal ∧
      normal.compile (.single table) .empty = expr.compile (.single table) .empty := by
  intro table expr normal
  obtain ⟨same, _, ends⟩ := compile_negationNormal expr (.single table) .empty
  exact ⟨rfl, (ends normal rfl).mpr rfl, same⟩

end TypedSql
