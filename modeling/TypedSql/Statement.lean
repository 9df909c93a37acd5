import TypedSql.Sql.Condition
import TypedSql.Predicate.Compilation

namespace TypedSql

open Sql

structure Statement where
  sql : String
  parameters : Parameters
  dialect : Dialect

inductive Direction where
  | ascending
  | descending
  deriving DecidableEq, Repr

namespace Direction

def default : Direction := ascending

def keyword : Direction → Keyword
  | ascending => .ASC
  | descending => .DESC

end Direction

namespace Sql

def orderBy (columns : List (Sql × Direction)) : Sql :=
  if columns.isEmpty then []
  else
    keywords [.ORDER, .BY] ++
      commas (columns.map fun (column, direction) => column ++ [.keyword direction.keyword])

end Sql

/-- The rows of a result that are wanted: at most `limit` of them after the first `offset`. -/
structure Page where
  limit : Option Nat
  offset : Option Nat
  deriving DecidableEq, Repr

namespace Page

def all : Page :=
  ⟨none, none⟩

/-- The limit of a page from the first row on, which SQL Server puts before the columns. -/
def top (page : Page) (dialect : Dialect) : Sql :=
  match dialect, page with
  | .sqlServer, ⟨some limit, none⟩ => .keyword .TOP :: parens [.number limit]
  | _, _ => []

/-- The page in words that follow an order, which SQL Server demands even if there is none. -/
def rows (page : Page) (dialect : Dialect) (isOrdered : Bool) : Sql :=
  let order : Sql :=
    if dialect = .sqlServer ∧ !isOrdered then
      keywords [.ORDER, .BY] ++ parens (keywords [.SELECT, .NULL])
    else []
  let skip : Sql := [.keyword .OFFSET, .number (page.offset.getD 0), .keyword .ROWS]
  let take : Sql :=
    match page.limit with
    | some limit => keywords [.FETCH, .NEXT] ++ .number limit :: keywords [.ROWS, .ONLY]
    | none => []
  order ++ skip ++ take

/-- The limit that stands for none where an offset needs one. -/
def noLimit? : Dialect → Option Sql.Chunk
  | .sqlLite => some (.raw "-1")
  | .mySql => some (.raw "18446744073709551615")
  | _ => none

def limitOffset (page : Page) (dialect : Dialect) : Sql :=
  let limit : Sql :=
    match (page.limit.map fun limit => Chunk.number limit).or (noLimit? dialect) with
    | some limit => [.keyword .LIMIT, limit]
    | none => []
  let offset : Sql :=
    match page.offset with
    | some offset => [.keyword .OFFSET, .number offset]
    | none => []
  limit ++ offset

def clause (page : Page) (dialect : Dialect) (isOrdered : Bool) : Sql :=
  if page.limit.isNone && page.offset.isNone then []
  else
    match dialect with
    | .sqlServer => if page.offset.isNone then [] else page.rows dialect isOrdered
    | .oracle => page.rows dialect isOrdered
    | .postgres | .mySql | .sqlLite => page.limitOffset dialect

end Page

/-- The rows of one table that a statement is about: those that fulfil the filter. -/
structure Target where
  table : Table
  filter : Option Expr

namespace Target

def all (table : Table) : Target :=
  ⟨table, none⟩

def narrow (target : Target) (condition : Expr) : Target :=
  match target.filter with
  | some filter => { target with filter := some (.connect .and filter condition) }
  | none => { target with filter := some condition }

def whereClause (table : Table) (filter : Expr) (dialect : Dialect) : Compile Sql := do
  let predicate ← filter.compile (.single table)
  return .keyword .WHERE :: (← predicate.sql dialect)

def clause (target : Target) (dialect : Dialect) : Compile Sql :=
  match target.filter with
  | some filter => whereClause target.table filter dialect
  | none => return []

end Target

namespace Statement

def make (dialect : Dialect) (sql : Compile Sql) : Except Error Statement :=
  match sql Parameters.empty with
  | (.ok sql, parameters) => .ok ⟨sql.render dialect .upper, parameters, dialect⟩
  | (.error error, _) => .error error

end Statement

end TypedSql
