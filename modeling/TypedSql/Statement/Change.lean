import TypedSql.Statement
import TypedSql.Row

namespace TypedSql

open Sql

namespace Compile

def placeholder (column : String) (value : Value) : Compile Chunk :=
  modifyGet fun parameters =>
    let (name, parameters) := parameters.allocate column value
    (.parameter name, parameters)

end Compile

structure Update where
  target : Target
  assignments : List (String × Value)

namespace Update

def all (table : Table) : Update :=
  ⟨.all table, []⟩

def set (update : Update) (column : String) (value : Value) : Update :=
  { update with assignments := update.assignments ++ [(column, value)] }

def filter (update : Update) (condition : Expr) : Update :=
  { update with target := update.target.narrow condition }

/-- The assignments come before the filter in the text and so in the parameters. -/
def sql (update : Update) (dialect : Dialect) : Compile Sql := do
  let assignments ← update.assignments.mapM fun (column, value) => do
    return [.column none column, .mark .equal, ← Compile.placeholder column value]
  let filter ← update.target.clause dialect
  return .keyword .UPDATE :: .identifier update.target.table.name :: .keyword .SET ::
    commas assignments ++ filter

def render (update : Update) (dialect : Dialect) : Except Error Statement :=
  if update.assignments.isEmpty then .error (.invalidStatement .updateWithoutSet)
  else Statement.make dialect (update.sql dialect)

end Update

structure Insert where
  table : Table
  entity : Row

namespace Insert

def skip (insert : Insert) (column : String) : Insert :=
  { insert with entity := ⟨insert.entity.cells.filter fun (name, _) => name != column⟩ }

def sql (insert : Insert) : Compile Sql := do
  let columns := insert.entity.columns.map fun name => [Chunk.column none name]
  let values ← insert.entity.cells.mapM fun (name, value) => do
    return [← Compile.placeholder name value]
  return keywords [.INSERT, .INTO] ++ .identifier insert.table.name :: parens (commas columns) ++
    .keyword .VALUES :: parens (commas values)

def render (insert : Insert) (dialect : Dialect) : Except Error Statement :=
  if insert.entity.cells.isEmpty then .error (.invalidStatement .insertWithoutColumns)
  else Statement.make dialect insert.sql

end Insert

end TypedSql
