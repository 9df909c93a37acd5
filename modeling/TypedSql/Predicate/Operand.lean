import TypedSql.Alias

namespace TypedSql

/-- What a condition is about: a column, through functions or not, or a value bound to a
parameter. -/
inductive Operand where
  | column (qualifier : Option Alias) (name : String) (type : FieldType)
  | parameter (name : String) (value : Value)
  | null
  | apply (function : Function) (argument : Operand)
  | round (places : Int32) (argument : Operand)

/-- The column of an operand, which names the parameters beside it. -/
def Operand.columnName? : Operand → Option String
  | column _ name _ => some name
  | parameter _ _ | null => none
  | apply _ argument | round _ argument => argument.columnName?

inductive Scope where
  /-- The one table of a statement, whose columns need no alias. -/
  | single (table : Table)
  | aliased (aliases : Aliases)

def Scope.resolve (scope : Scope) (table : Table) : Except Error (Option Alias) :=
  match scope with
  | single own => if table = own then .ok none else .error (.aliasNotFound table.name)
  | aliased aliases => (aliases.require table).map some

end TypedSql
