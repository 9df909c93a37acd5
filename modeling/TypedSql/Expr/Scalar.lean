import TypedSql.Expr

namespace TypedSql

namespace Function

def accepts : Function → FieldType → Bool
  | upper | lower | trim | length => FieldType.isTextual
  | abs => FieldType.isNumeric
  | year | month | day => FieldType.isTemporal

def result (function : Function) (argument : ColumnType) : ColumnType :=
  match function with
  | upper | lower | trim | abs => argument
  | length | year | month | day => ⟨.int32, false⟩

end Function

/-- An expression of a known type over the columns of one table. -/
inductive Scalar (table : Table) : ColumnType → Type where
  | column {type : ColumnType} (name : String) : Scalar table type
  | literal {type : ColumnType} (value : Value) (admitted : type.admits value) : Scalar table type
  | apply {type : ColumnType} (function : Function) (argument : Scalar table type)
      (accepted : function.accepts type.field) : Scalar table (function.result type)
  | round {type : ColumnType} (argument : Scalar table type) (places : Int32)
      (numeric : type.field.isNumeric) : Scalar table type
  | arithmetic {type : ColumnType} (operator : Arithmetic) (left right : Scalar table type)
      (numeric : type.field.isNumeric) : Scalar table type
  | average (values : List Value) : Scalar table ⟨.double, false⟩

namespace Scalar

variable {table : Table} {type : ColumnType}

def expr : {type : ColumnType} → Scalar table type → Expr
  | type, column name => .column ⟨table, name, type.field⟩
  | _, literal value _ => .literal value
  | _, apply function argument _ => .call (.apply function) argument.expr []
  | _, round argument places _ => .call .round argument.expr [.literal (.int32 places)]
  | _, arithmetic operator left right _ => .arithmetic operator left.expr right.expr
  | _, average values => .call .average (.list (values.map .literal)) []

def text (value : String) : Scalar table ⟨.string, false⟩ :=
  literal (.string value) rfl

def upper (scalar : Scalar table type) (textual : type.field.isTextual) : Scalar table type :=
  apply .upper scalar textual

def lower (scalar : Scalar table type) (textual : type.field.isTextual) : Scalar table type :=
  apply .lower scalar textual

def trim (scalar : Scalar table type) (textual : type.field.isTextual) : Scalar table type :=
  apply .trim scalar textual

def length (scalar : Scalar table type) (textual : type.field.isTextual) :
    Scalar table ⟨.int32, false⟩ :=
  apply .length scalar textual

def abs (scalar : Scalar table type) (numeric : type.field.isNumeric) : Scalar table type :=
  apply .abs scalar numeric

def year (scalar : Scalar table type) (temporal : type.field.isTemporal) :
    Scalar table ⟨.int32, false⟩ :=
  apply .year scalar temporal

def month (scalar : Scalar table type) (temporal : type.field.isTemporal) :
    Scalar table ⟨.int32, false⟩ :=
  apply .month scalar temporal

def day (scalar : Scalar table type) (temporal : type.field.isTemporal) :
    Scalar table ⟨.int32, false⟩ :=
  apply .day scalar temporal

end Scalar

end TypedSql
