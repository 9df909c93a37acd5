import TypedSql.Table

namespace TypedSql

inductive Comparison where
  | equal
  | notEqual
  | greater
  | greaterOrEqual
  | less
  | lessOrEqual
  deriving DecidableEq, Repr

namespace Comparison

def all : List Comparison :=
  [equal, notEqual, greater, greaterOrEqual, less, lessOrEqual]

def symbol : Comparison → String
  | equal => "=="
  | notEqual => "!="
  | greater => ">"
  | greaterOrEqual => ">="
  | less => "<"
  | lessOrEqual => "<="

/-- The comparison that holds exactly when this one does not. -/
def negate : Comparison → Comparison
  | equal => notEqual
  | notEqual => equal
  | greater => lessOrEqual
  | greaterOrEqual => less
  | less => greaterOrEqual
  | lessOrEqual => greater

/-- The comparison of the same operands the other way round. -/
def mirror : Comparison → Comparison
  | greater => less
  | greaterOrEqual => lessOrEqual
  | less => greater
  | lessOrEqual => greaterOrEqual
  | comparison => comparison

def holds : Comparison → Ordering → Bool
  | equal, order => order == .eq
  | notEqual, order => order != .eq
  | greater, order => order == .gt
  | greaterOrEqual, order => order != .lt
  | less, order => order == .lt
  | lessOrEqual, order => order != .gt

def isOrdering : Comparison → Bool
  | equal | notEqual => false
  | _ => true

theorem negate_negate (comparison : Comparison) : comparison.negate.negate = comparison := by
  cases comparison <;> rfl

theorem mirror_mirror (comparison : Comparison) : comparison.mirror.mirror = comparison := by
  cases comparison <;> rfl

theorem holds_negate (comparison : Comparison) (order : Ordering) :
    comparison.negate.holds order = !comparison.holds order := by
  cases comparison <;> cases order <;> rfl

theorem holds_mirror (comparison : Comparison) (order : Ordering) :
    comparison.mirror.holds order.swap = comparison.holds order := by
  cases comparison <;> cases order <;> rfl

end Comparison

inductive Connective where
  | and
  | or
  deriving DecidableEq, Repr

namespace Connective

def symbol : Connective → String
  | and => "&&"
  | or => "||"

def isSettledBy : Connective → Bool → Bool
  | and, truth => !truth
  | or, truth => truth

/-- The connective of the negated operands of a negated connective. -/
def dual : Connective → Connective
  | and => or
  | or => and

theorem dual_dual (connective : Connective) : connective.dual.dual = connective := by
  cases connective <;> rfl

end Connective

inductive Arithmetic where
  | add
  | sub
  | mul
  | div
  deriving DecidableEq, Repr

def Arithmetic.symbol : Arithmetic → String
  | add => "+"
  | sub => "-"
  | mul => "*"
  | div => "/"

inductive Test where
  | contains
  | startsWith
  | endsWith
  | between
  | isIn
  | after
  | before
  | matchesPattern
  deriving DecidableEq, Repr

namespace Test

def name : Test → String
  | contains => "contains"
  | startsWith => "starts_with"
  | endsWith => "ends_with"
  | between => "between"
  | isIn => "is_in"
  | after => "after"
  | before => "before"
  | matchesPattern => "matches"

def arity : Test → Nat
  | between => 2
  | _ => 1

end Test

inductive Function where
  | upper
  | lower
  | trim
  | length
  | abs
  | year
  | month
  | day
  deriving DecidableEq, Repr

def Function.name : Function → String
  | upper => "upper"
  | lower => "lower"
  | trim => "trim"
  | length => "length"
  | abs => "abs"
  | year => "year"
  | month => "month"
  | day => "day"

inductive Method where
  | test (kind : Test)
  | apply (function : Function)
  | round
  | average
  deriving DecidableEq, Repr

def Method.name : Method → String
  | test kind => kind.name
  | apply function => function.name
  | round => "round"
  | average => "average"

/-- An expression over the columns of tables. Nothing keeps it from being senseless: what is of no
use is refused when it is evaluated or compiled. -/
inductive Expr where
  | column (reference : ColumnRef)
  | literal (value : Value)
  | list (items : List Expr)
  | compare (comparison : Comparison) (left right : Expr)
  | connect (connective : Connective) (left right : Expr)
  | arithmetic (operator : Arithmetic) (left right : Expr)
  | not (inner : Expr)
  | call (method : Method) (receiver : Expr) (arguments : List Expr)
  deriving Inhabited

namespace Expr

mutual

def isBound : Expr → Bool
  | column _ => true
  | literal _ => false
  | list items => anyBound items
  | compare _ left right | connect _ left right | arithmetic _ left right =>
    left.isBound || right.isBound
  | not inner => inner.isBound
  | call _ receiver arguments => receiver.isBound || anyBound arguments

def anyBound : List Expr → Bool
  | [] => false
  | first :: rest => first.isBound || anyBound rest

end

mutual

def columns : Expr → List ColumnRef
  | column reference => [reference]
  | literal _ => []
  | list items => columnsOf items
  | compare _ left right | connect _ left right | arithmetic _ left right =>
    left.columns ++ right.columns
  | not inner => inner.columns
  | call _ receiver arguments => receiver.columns ++ columnsOf arguments

def columnsOf : List Expr → List ColumnRef
  | [] => []
  | first :: rest => first.columns ++ columnsOf rest

end

/-- The column written first, which names the parameters beside it. -/
def firstColumn? (expr : Expr) : Option ColumnRef :=
  expr.columns.head?

mutual

def text : Expr → String
  | column reference => reference.text
  | literal value => value.text
  | list items => "[" ++ textOf items ++ "]"
  | compare comparison left right =>
    "(" ++ left.text ++ " " ++ comparison.symbol ++ " " ++ right.text ++ ")"
  | connect connective left right =>
    "(" ++ left.text ++ " " ++ connective.symbol ++ " " ++ right.text ++ ")"
  | arithmetic operator left right =>
    "(" ++ left.text ++ " " ++ operator.symbol ++ " " ++ right.text ++ ")"
  | not inner => "!" ++ inner.text
  | call method receiver arguments =>
    receiver.text ++ "." ++ method.name ++ "(" ++ textOf arguments ++ ")"

def textOf : List Expr → String
  | [] => ""
  | [last] => last.text
  | first :: rest => first.text ++ ", " ++ textOf rest

end

end Expr

end TypedSql
