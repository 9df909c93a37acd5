import TypedSql.Predicate.Node
import TypedSql.Parameters
import TypedSql.Expr.Evaluation

namespace TypedSql

/-- A step of a compilation. Parameters recorded before an error stay recorded. -/
abbrev Compile (α : Type) := ExceptT Error (StateM Parameters) α

namespace Compile

def fail {α : Type} (expr : Expr) (reason : Unsupported) : Compile α :=
  throw (.unsupported expr reason)

def parameter (column : Option String) (value : Value) : Compile Operand :=
  modifyGet fun parameters =>
    let (name, parameters) := parameters.allocate (column.getD "p") value
    (.parameter name value, parameters)

def column (scope : Scope) (reference : ColumnRef) : Compile Operand := do
  return .column (← scope.resolve reference.table) reference.name reference.type

def places (expr : Expr) : List Expr → Compile Int32
  | [] => fail expr .roundDigitsNotLiteral
  | first :: rest => do
    match ← first.evaluate, rest with
    | .int32 places, [] => return places
    | _, _ => fail expr .roundDigitsNotLiteral

def operand (scope : Scope) : Expr → Compile Operand
  | .column reference => column scope reference
  | .call method receiver arguments => do
    let expr := Expr.call method receiver arguments
    let wrap : Operand → Operand ← match method with
      | .apply function => pure (.apply function)
      | .round => .round <$> places expr arguments
      | .average => fail expr .averageOverColumns
      | .test _ => fail expr .testAsOperand
    if receiver.isBound then
      return wrap (← operand scope receiver)
    else
      fail expr .columnsInArguments
  | .arithmetic operator left right => fail (.arithmetic operator left right) .arithmeticOverColumns
  | expr => fail expr .operandShape

/-- The receiver or an argument of a test. A value is bound to a parameter, after `change`. -/
def argument (scope : Scope) (hint : Option String) (change : Value → Value) (expr : Expr) :
    Compile Operand := do
  if expr.isBound then
    operand scope expr
  else
    let value ← expr.evaluate
    if value.isNull then
      fail expr .nullArgument
    else
      parameter hint (change value)

def compared (scope : Scope) (comparison : Comparison) (bound other : Expr) :
    Compile Condition := do
  let operand ← Compile.operand scope bound
  if other.isBound then
    return .comparison comparison operand (← Compile.operand scope other)
  else
    let value ← other.evaluate
    if value.isNull then
      if comparison.isOrdering then
        fail other .orderingWithNull
      else
        return .comparison comparison operand .null
    else
      return .comparison comparison operand (← parameter operand.columnName? value)

def comparison (scope : Scope) (comparison : Comparison) (left right : Expr) (negated : Bool) :
    Compile Condition :=
  let (comparison, bound, other) :=
    if left.isBound then (comparison, left, right) else (comparison.mirror, right, left)
  compared scope (if negated then comparison.negate else comparison) bound other

end Compile

namespace Test

def pattern (test : Test) (text : String) : String :=
  match test with
  | contains => "%" ++ text ++ "%"
  | startsWith => text ++ "%"
  | endsWith => "%" ++ text
  | _ => text

def patternValue (test : Test) : Value → Value
  | .string text => .string (test.pattern text)
  | value => value

end Test

namespace Compile

/-- The condition of a test `expr`. Nothing is in the empty list. -/
def test (scope : Scope) (expr : Expr) (kind : Test) (receiver : Expr) (arguments : List Expr)
    (negated : Bool) : Compile Condition := do
  let hint := expr.firstColumn?.map ColumnRef.name
  if arguments.length ≠ kind.arity then
    fail expr .argumentCount
  else
    let operand ← argument scope hint id receiver
    match kind, arguments with
    | .isIn, [.list []] => return .constant negated
    | .isIn, [.list items] =>
      return .test kind operand (← items.mapM (argument scope hint id)) negated
    | .isIn, _ => fail expr .listExpected
    | kind, arguments =>
      return .test kind operand (← arguments.mapM (argument scope hint kind.patternValue)) negated

def condition (scope : Scope) (expr : Expr) (negated : Bool) : Compile Condition := do
  if !expr.isBound then
    return .constant ((← expr.evaluateBool) != negated)
  else
    match expr with
    | .column reference =>
      if reference.type ≠ .bool then
        fail expr .nonBooleanColumn
      else
        let operand ← column scope reference
        return .comparison .equal operand (← parameter reference.name (.bool !negated))
    | .compare comparison left right => Compile.comparison scope comparison left right negated
    | .call (.test kind) receiver arguments => test scope expr kind receiver arguments negated
    | .arithmetic .. => fail expr .arithmeticAsPredicate
    | .call .. => fail expr .scalarAsPredicate
    | _ => fail expr .nonBooleanPredicate

/-- The conditions of an expression under their connectives. A negation moves inwards, where it
swaps the connectives and ends at the conditions. -/
def tree (scope : Scope) (expr : Expr) (negated : Bool) :
    Compile (Predicate.Tree Condition) :=
  match expr with
  | .not inner => tree scope inner !negated
  | .connect connective left right => do
    let left ← tree scope left negated
    let right ← tree scope right negated
    return .branch (if negated then connective.dual else connective) left right
  | expr => return .leaf (← condition scope expr negated)

end Compile

/-- Compiles an expression into a predicate. Values are bound to parameters, in the order in which
they stand in the predicate. -/
def Expr.compile (expr : Expr) (scope : Scope) : Compile Predicate := do
  return ⟨(← Compile.tree scope expr false).nodes⟩

end TypedSql
