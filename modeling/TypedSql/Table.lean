import TypedSql.Value.Conversion

namespace TypedSql

structure Field where
  name : String
  type : ColumnType
  deriving DecidableEq, Repr

/-- A table, or the type that the rows of a view are read into. Tables of the same name are told
apart by `key`. -/
structure Table where
  key : String
  name : String
  fields : List Field
  deriving DecidableEq, Repr

def Table.field? (table : Table) (name : String) (type : FieldType) : Option Field :=
  table.fields.find? fun field => field.name == name && field.type.field == type

/-- A column of a table as an expression names it, which need not be a declared one. -/
structure ColumnRef where
  table : Table
  name : String
  type : FieldType
  deriving DecidableEq, Repr

def ColumnRef.text (column : ColumnRef) : String :=
  column.table.name ++ "." ++ column.name

end TypedSql
