import TypedSql.Sql.Chunk
import TypedSql.Predicate.Node

namespace TypedSql

open Sql

namespace Sql

/-- A part of a date: its name, and its place in a date format. -/
structure DatePart where
  name : String
  format : String

namespace DatePart

def year : DatePart := ⟨"YEAR", "'%Y'"⟩

def month : DatePart := ⟨"MONTH", "'%m'"⟩

def day : DatePart := ⟨"DAY", "'%d'"⟩

def sql (part : DatePart) (dialect : Dialect) (date : Sql) : Sql :=
  match dialect with
  | .sqlServer => call "DATEPART" (.word part.name :: .mark .comma :: date)
  | .sqlLite =>
    let text := call "STRFTIME" (.raw part.format :: .mark .comma :: date)
    call "CAST" (text ++ [.keyword .AS, .word "INTEGER"])
  | .postgres | .mySql | .oracle => call "EXTRACT" (.word part.name :: .keyword .FROM :: date)

end DatePart

def ofFunction (dialect : Dialect) (function : Function) (argument : Sql) : Sql :=
  match function with
  | .upper => call "UPPER" argument
  | .lower => call "LOWER" argument
  | .trim => call "TRIM" argument
  | .abs => call "ABS" argument
  | .length => call (if dialect = .sqlServer then "LEN" else "LENGTH") argument
  | .year => DatePart.year.sql dialect argument
  | .month => DatePart.month.sql dialect argument
  | .day => DatePart.day.sql dialect argument

end Sql

def Operand.sql (dialect : Dialect) : Operand → Sql
  | column qualifier name _ => [.column qualifier name]
  | parameter name _ => [.parameter name]
  | null => [.keyword .NULL]
  | apply function argument => Sql.ofFunction dialect function (argument.sql dialect)
  | round places argument =>
    call "ROUND" (argument.sql dialect ++ [.mark .comma, .number places.toInt])

/-- Whether the operand is a value that is known when the statement is made. -/
def Operand.isValue : Operand → Bool
  | parameter .. | null => true
  | column .. | apply .. | round .. => false

namespace Sql

def ofOperand? (dialect : Dialect) : Option Operand → Sql
  | some operand => operand.sql dialect
  | none => [.keyword .NULL]

/-- The pattern of a test for a text in another. A value is a pattern already; what the database
holds gets its wildcards there. -/
def pattern (dialect : Dialect) (kind : Test) (argument : Option Operand) : Sql :=
  let text := ofOperand? dialect argument
  if (argument.map Operand.isValue).getD true then text
  else
    let wildcard : Sql := [.raw "'%'"]
    let parts := (if kind = .startsWith then [] else [wildcard]) ++ [text] ++
      (if kind = .endsWith then [] else [wildcard])
    match dialect with
    | .mySql => call "CONCAT" (commas parts)
    | .sqlServer => join (.mark .plus) parts
    | .postgres | .sqlLite | .oracle => join (.mark .concat) parts

def ofComparison : Comparison → Mark
  | .equal => .equal
  | .notEqual => .notEqual
  | .greater => .greater
  | .greaterOrEqual => .greaterOrEqual
  | .less => .less
  | .lessOrEqual => .lessOrEqual

def negatable (negated : Bool) (keyword : Keyword) : Sql :=
  if negated then [.keyword .NOT, .keyword keyword] else [.keyword keyword]

/-- A search for a regular expression, which SQL Server and SQLite do not know. -/
def ofMatch (dialect : Dialect) (text pattern : Sql) (negated : Bool) : Except Error Sql :=
  match dialect with
  | .postgres => .ok (text ++ .mark (if negated then .notTilde else .tilde) :: pattern)
  | .mySql => .ok (text ++ negatable negated .REGEXP ++ pattern)
  | .oracle =>
    let search := call "REGEXP_LIKE" (text ++ .mark .comma :: pattern)
    .ok (if negated then .keyword .NOT :: search else search)
  | .sqlServer | .sqlLite => .error (.dialectUnsupported "Matches" dialect)

def ofTest (dialect : Dialect) (kind : Test) (receiver : Operand) (arguments : List Operand)
    (negated : Bool) : Except Error Sql :=
  let receiver := receiver.sql dialect
  let first := ofOperand? dialect arguments[0]?
  match kind with
  | .contains | .startsWith | .endsWith =>
    .ok (receiver ++ negatable negated .LIKE ++ pattern dialect kind arguments[0]?)
  | .between =>
    let second := ofOperand? dialect arguments[1]?
    .ok (receiver ++ negatable negated .BETWEEN ++ first ++ .keyword .AND :: second)
  | .isIn =>
    .ok (receiver ++ negatable negated .IN ++ parens (commas (arguments.map (·.sql dialect))))
  | .after => .ok (receiver ++ .mark (if negated then .lessOrEqual else .greater) :: first)
  | .before => .ok (receiver ++ .mark (if negated then .greaterOrEqual else .less) :: first)
  | .matchesPattern => ofMatch dialect receiver first negated

end Sql

def Condition.sql (dialect : Dialect) : Condition → Except Error Sql
  | constant value => .ok [.number 1, .mark .equal, .number (if value then 1 else 0)]
  | comparison .equal left .null => .ok (left.sql dialect ++ keywords [.IS, .NULL])
  | comparison _ left .null => .ok (left.sql dialect ++ keywords [.IS, .NOT, .NULL])
  | comparison operator left right =>
    .ok (left.sql dialect ++ .mark (Sql.ofComparison operator) :: right.sql dialect)
  | test kind receiver arguments negated => Sql.ofTest dialect kind receiver arguments negated

namespace Predicate

def Content.sql (dialect : Dialect) : Content → Except Error Sql
  | condition inner => inner.sql dialect
  | connective .and => .ok [.keyword .AND]
  | connective .or => .ok [.keyword .OR]

def Node.sql (dialect : Dialect) (node : Node) : Except Error Sql := do
  let content ← node.content.sql dialect
  return List.replicate node.opening.toNat (.mark .leftParen) ++ content ++
    List.replicate node.closing.toNat (.mark .rightParen)

end Predicate

def Predicate.sql (dialect : Dialect) (predicate : Predicate) : Except Error Sql := do
  return (← predicate.nodes.mapM (Node.sql dialect)).flatten

end TypedSql
