import TypedSql.Error

namespace TypedSql

/-- A row of named values: what a query yields, or an entity of a table with a value for each of
its columns. -/
structure Row where
  cells : List (String × Value)

namespace Row

def columns (row : Row) : List String :=
  row.cells.map Prod.fst

def get? (row : Row) (column : String) : Option Value :=
  row.cells.lookup column

def mapped {α : Type} (column : String) (result : Except ConversionError α) : Except Error α :=
  result.mapError (.mapping column)

def getAs (row : Row) (column : String) (type : ColumnType) : Except Error Value :=
  mapped column (type.convert ((row.get? column).getD .null))

/-- Reads a column as one of the type. An absent column and null read as the default. -/
def getOrDefault (row : Row) (column : String) (type : ColumnType) : Except Error Value :=
  match row.get? column with
  | none | some .null => .ok type.default
  | some value => mapped column (value.convert type.field)

end Row

namespace Table

def readFields (row : Row) : List Field → Except Error (List (String × Value))
  | [] => .ok []
  | field :: rest => do
    let value ← row.getOrDefault field.name field.type
    return (field.name, value) :: (← readFields row rest)

/-- Reads a row as an entity of the table. A row without a value for a column leaves it at its
default, so that an entity always has every column, in declared order. -/
def read (table : Table) (row : Row) : Except Error Row :=
  (readFields row table.fields).map Row.mk

end Table

end TypedSql
