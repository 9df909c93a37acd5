import TypedSql.Proofs.Reading
import TypedSql.Proofs.Truth
import TypedSql.Predicate.Compilation

namespace TypedSql

def Value.truth? : Value → Option Truth
  | bool truth => some (.ofBool truth)
  | null => some .unknown
  | _ => none

/-- An argument of a test: what the row holds, or a value that a statement carries. The text of the
latter is a pattern already. -/
inductive Argument where
  | stored (value : Value)
  | given (value : Value)

/-- A row, an order of the values other than null, and what functions and tests make of values. -/
structure Interpretation (Rank : Type) where
  column : ColumnRef → Value
  column_bool : ∀ reference, reference.type = .bool → (column reference).truth?.isSome
  rank : Value → Rank
  rank_bool : rank (.bool true) ≠ rank (.bool false)
  apply : Function → Value → Value
  round : Int32 → Value → Value
  test : Test → Value → List Argument → Truth

namespace Interpretation

variable {Rank : Type} [LinearOrder Rank]

def compare (interpretation : Interpretation Rank) (comparison : Comparison) (left right : Value) :
    Truth :=
  if left.isNull || right.isNull then .unknown
  else .ofBool (decide (comparison.relates (interpretation.rank left) (interpretation.rank right)))

def compareNull? (comparison : Comparison) (value : Value) : Option Truth :=
  match comparison with
  | .equal => some (.ofBool value.isNull)
  | .notEqual => some (.ofBool !value.isNull)
  | _ => none

end Interpretation

namespace Expr

variable {Rank : Type} [LinearOrder Rank] (interpretation : Interpretation Rank)

def stored? : Expr → Option Value
  | column reference => some (interpretation.column reference)
  | call (.apply function) receiver _ => receiver.stored?.map (interpretation.apply function)
  | call .round receiver [digits] =>
    match digits.evaluate with
    | .ok (.int32 places) => receiver.stored?.map (interpretation.round places)
    | _ => none
  | _ => none

def value? (expr : Expr) : Option Value :=
  if expr.isBound then expr.stored? interpretation else expr.evaluate.toOption

def argument? (change : Value → Value) (expr : Expr) : Option Argument :=
  if expr.isBound then (expr.stored? interpretation).map .stored
  else expr.evaluate.toOption.map fun value => .given (change value)

/-- The truth value of a comparison. Null that is written in it makes it a test for null. -/
def compareTruth? (comparison : Comparison) (left right : Expr) : Option Truth := do
  let a ← left.value? interpretation
  let b ← right.value? interpretation
  if !left.isBound && a.isNull then
    Interpretation.compareNull? comparison b
  else if !right.isBound && b.isNull then
    Interpretation.compareNull? comparison a
  else
    return interpretation.compare comparison a b

/-- The truth value of a test. Nothing is in the empty list. -/
def testTruth? (kind : Test) (receiver : Expr) (arguments : List Expr) : Option Truth :=
  match kind, arguments with
  | .isIn, [list []] => some .fails
  | .isIn, [list items] => do
    return interpretation.test .isIn (← receiver.value? interpretation)
      (← items.mapM (argument? interpretation id))
  | .isIn, _ => none
  | kind, arguments => do
    return interpretation.test kind (← receiver.value? interpretation)
      (← arguments.mapM (argument? interpretation kind.patternValue))

def clauseTruth? (expr : Expr) : Option Truth :=
  if !expr.isBound then expr.evaluateBool.toOption.map .ofBool
  else
    match expr with
    | column reference => (interpretation.column reference).truth?
    | compare comparison left right => compareTruth? interpretation comparison left right
    | call (.test kind) receiver arguments => testTruth? interpretation kind receiver arguments
    | _ => none

def truth? : Expr → Option Truth
  | not inner => inner.truth?.map .not
  | connect connective left right => connective.truth? left.truth? right.truth?
  | expr => expr.clauseTruth? interpretation

end Expr

def Scope.table? (scope : Scope) (qualifier : Option Alias) : Option Table :=
  match scope, qualifier with
  | single table, none => some table
  | aliased aliases, some qualifier => aliases.tables[qualifier.code.toNat]?
  | _, _ => none

section

variable {Rank : Type} [LinearOrder Rank] (interpretation : Interpretation Rank) (scope : Scope)

namespace Operand

def value? : Operand → Option Value
  | column qualifier name type =>
    (scope.table? qualifier).map fun table => interpretation.column ⟨table, name, type⟩
  | parameter _ value => some value
  | null => some .null
  | apply function argument => argument.value?.map (interpretation.apply function)
  | round places argument => argument.value?.map (interpretation.round places)

def argument? (operand : Operand) : Option Argument :=
  match operand with
  | parameter _ value => some (.given value)
  | operand => (operand.value? interpretation scope).map .stored

end Operand

def Condition.truth? : Condition → Option Truth
  | constant truth => some (.ofBool truth)
  | comparison written left .null =>
    (left.value? interpretation scope).bind (Interpretation.compareNull? written)
  | comparison written left right => do
    return interpretation.compare written (← left.value? interpretation scope)
      (← right.value? interpretation scope)
  | test kind receiver arguments negated => do
    let truth := interpretation.test kind (← receiver.value? interpretation scope)
      (← arguments.mapM (Operand.argument? interpretation scope))
    return truth.under negated

def Predicate.truth? (predicate : Predicate) : Option Truth := do
  let tree ← predicate.read?
  tree.fold Connective.truth? (Condition.truth? interpretation scope)

end

end TypedSql
