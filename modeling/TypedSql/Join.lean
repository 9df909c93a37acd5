import TypedSql.Join.Projection
import TypedSql.Statement

namespace TypedSql

open Sql

namespace Join

inductive Kind where
  | inner
  | left
  | right
  | fullOuter
  deriving DecidableEq, Repr

def Kind.keywords : Kind → List Keyword
  | inner => [.INNER, .JOIN]
  | left => [.LEFT, .JOIN]
  | right => [.RIGHT, .JOIN]
  | fullOuter => [.FULL, .OUTER, .JOIN]

inductive Combinator where
  | on
  | and
  | or
  deriving DecidableEq, Repr

def Combinator.keyword : Combinator → Keyword
  | on => .ON
  | and => .AND
  | or => .OR

/-- The demand that a column of the joined table equals one of an earlier table. -/
structure Link where
  combinator : Combinator
  leftAlias : Alias
  leftColumn : String
  rightAlias : Alias
  rightColumn : String
  deriving DecidableEq

structure Pair where
  kind : Kind
  left : Alias
  right : Alias
  table : Table
  links : List Link
  filters : List Predicate

def Pair.link (pair : Pair) (combinator : Combinator) (left right : String) : Pair :=
  { pair with links := pair.links ++ [⟨combinator, pair.left, left, pair.right, right⟩] }

end Join

/-- A join of tables, read into an output type. -/
structure Join where
  output : Table
  aliases : Aliases
  pairs : List Join.Pair
  projection : Projection
  parameters : Parameters
  order : List (Alias × String × Direction)

namespace Join

def base? (join : Join) : Option (Alias × Table) :=
  join.aliases.toList.head?

def aliasedTable (qualifier : Alias) (table : Table) : Sql :=
  [.identifier table.name, .raw qualifier.text]

def Link.sql (link : Link) : Sql :=
  [.keyword link.combinator.keyword, .column (some link.rightAlias) link.rightColumn,
    .mark .equal, .column (some link.leftAlias) link.leftColumn]

def Pair.sql (pair : Pair) : Sql :=
  keywords pair.kind.keywords ++ aliasedTable pair.right pair.table ++
    pair.links.flatMap Link.sql

def selected (dialect : Dialect) (property : String) (source : Projection.Source) : Sql :=
  let column : Chunk := .column (some source.qualifier) source.column
  let value : Sql :=
    match source.cast with
    | some type => call "CAST" [column, .keyword .AS, .raw (dialect.castName type)]
    | none => [column]
  value ++ [.keyword .AS, .identifier property]

def selection (dialect : Dialect) (projection : Projection) : List Sql :=
  projection.bindings.filterMap fun binding =>
    binding.source.map (selected dialect binding.property)

/-- The filters one after another. One with connectives stands in parentheses among others. -/
def filterClause (dialect : Dialect) (filters : List Predicate) : Except Error Sql := do
  let isGrouped := filters.length > 1
  let parts ← filters.mapM fun filter => do
    let sql ← filter.sql dialect
    return if isGrouped && filter.hasConnectives then parens sql else sql
  return if filters.isEmpty then [] else .keyword .WHERE :: Sql.join (.keyword .AND) parts

def sql (join : Join) (dialect : Dialect) : Except Error Sql :=
  match join.base? with
  | none => .error (.invalidStatement .joinWithoutTables)
  | some (qualifier, table) => do
    let columns := selection dialect join.projection
    if columns.isEmpty then
      throw (.invalidStatement .joinWithoutProperties)
    let filters ← filterClause dialect (join.pairs.flatMap Pair.filters)
    let order := orderBy (join.order.map fun (qualifier, column, direction) =>
      ([.column (some qualifier) column], direction))
    return .keyword .SELECT :: commas columns ++ .keyword .FROM :: aliasedTable qualifier table ++
      join.pairs.flatMap Pair.sql ++ filters ++ order

/-- The query of the join, in small letters. Properties that are not bound are left out. -/
def render (join : Join) (dialect : Dialect) : Except Error Statement := do
  let sql ← join.sql dialect
  return ⟨sql.render dialect .lower, join.parameters, dialect⟩

end Join

end TypedSql
