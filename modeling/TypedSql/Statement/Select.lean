import TypedSql.Statement

namespace TypedSql

open Sql

/-- A query of every column of a table. -/
structure Select where
  target : Target
  order : List (String × Direction)
  page : Page

namespace Select

def all (table : Table) : Select :=
  ⟨.all table, [], .all⟩

def filter (select : Select) (condition : Expr) : Select :=
  { select with target := select.target.narrow condition }

def orderBy (select : Select) (column : String) (direction : Direction) : Select :=
  { select with order := select.order ++ [(column, direction)] }

def limit (select : Select) (rows : Nat) : Select :=
  { select with page := { select.page with limit := some rows } }

def offset (select : Select) (rows : Nat) : Select :=
  { select with page := { select.page with offset := some rows } }

def sql (select : Select) (dialect : Dialect) : Compile Sql := do
  let table := select.target.table
  let columns := commas (table.fields.map fun field => [.column none field.name])
  let filter ← select.target.clause dialect
  let order := Sql.orderBy (select.order.map fun (name, direction) =>
    ([.column none name], direction))
  return .keyword .SELECT :: select.page.top dialect ++ columns ++
    [.keyword .FROM, .identifier table.name] ++ filter ++ order ++
    select.page.clause dialect (!select.order.isEmpty)

def render (select : Select) (dialect : Dialect) : Except Error Statement :=
  Statement.make dialect (select.sql dialect)

end Select

namespace Target

def countSql (target : Target) (dialect : Dialect) : Compile Sql := do
  let filter ← target.clause dialect
  return .keyword .SELECT :: call "COUNT" [.mark .star] ++
    [.keyword .FROM, .identifier target.table.name] ++ filter

def count (target : Target) (dialect : Dialect) : Except Error Statement :=
  Statement.make dialect (target.countSql dialect)

def deleteSql (target : Target) (dialect : Dialect) : Compile Sql := do
  let filter ← target.clause dialect
  return keywords [.DELETE, .FROM] ++ .identifier target.table.name :: filter

def delete (target : Target) (dialect : Dialect) : Except Error Statement :=
  Statement.make dialect (target.deleteSql dialect)

end Target

end TypedSql
