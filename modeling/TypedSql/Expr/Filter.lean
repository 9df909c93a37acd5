import TypedSql.Expr.Scalar

namespace TypedSql

inductive Search where
  | contains
  | startsWith
  | endsWith
  deriving DecidableEq, Repr

def Search.test : Search → Test
  | contains => .contains
  | startsWith => .startsWith
  | endsWith => .endsWith

inductive Sequence where
  | after
  | before
  deriving DecidableEq, Repr

def Sequence.test : Sequence → Test
  | after => .after
  | before => .before

/-- A condition on the rows of one table whose operands fit together. -/
inductive Filter (table : Table) where
  | compare {type : ColumnType} (comparison : Comparison) (left right : Scalar table type)
  | isNull {type : ColumnType} (scalar : Scalar table type)
  | isNotNull {type : ColumnType} (scalar : Scalar table type)
  | between {type : ColumnType} (scalar low high : Scalar table type)
  | isIn {type : ColumnType} (scalar : Scalar table type) (items : List (Scalar table type))
  | search {type : ColumnType} (kind : Search) (scalar : Scalar table type)
      (textual : type.field.isTextual) (part : Scalar table ⟨.string, false⟩)
  | matchesPattern {type : ColumnType} (scalar : Scalar table type)
      (textual : type.field.isTextual) (pattern : String)
  | sequence {type : ColumnType} (kind : Sequence) (scalar moment : Scalar table type)
      (temporal : type.field.isTemporal)
  | isTrue (column : String)
  | connect (connective : Connective) (left right : Filter table)
  | not (inner : Filter table)

namespace Filter

variable {table : Table} {type : ColumnType}

def expr : Filter table → Expr
  | compare comparison left right => .compare comparison left.expr right.expr
  | isNull scalar => .compare .equal scalar.expr (.literal .null)
  | isNotNull scalar => .compare .notEqual scalar.expr (.literal .null)
  | between scalar low high => .call (.test .between) scalar.expr [low.expr, high.expr]
  | isIn scalar items => .call (.test .isIn) scalar.expr [.list (items.map Scalar.expr)]
  | search kind scalar _ part => .call (.test kind.test) scalar.expr [part.expr]
  | matchesPattern scalar _ pattern =>
    .call (.test .matchesPattern) scalar.expr [.literal (.string pattern)]
  | sequence kind scalar moment _ => .call (.test kind.test) scalar.expr [moment.expr]
  | isTrue column => .column ⟨table, column, .bool⟩
  | connect connective left right => .connect connective left.expr right.expr
  | not inner => .not inner.expr

def isFalse (column : String) : Filter table :=
  not (isTrue column)

def notIn (scalar : Scalar table type) (items : List (Scalar table type)) : Filter table :=
  not (isIn scalar items)

def and (left right : Filter table) : Filter table :=
  connect .and left right

def or (left right : Filter table) : Filter table :=
  connect .or left right

/-- Filters under one connective, from the left. There is none without filters. -/
def connectAll (connective : Connective) : List (Filter table) → Option (Filter table)
  | [] => none
  | first :: rest => some (rest.foldl (connect connective) first)

def all (filters : List (Filter table)) : Option (Filter table) :=
  connectAll .and filters

def any (filters : List (Filter table)) : Option (Filter table) :=
  connectAll .or filters

end Filter

end TypedSql
