import TypedSql.Dialect

namespace TypedSql

namespace Sql

inductive LetterCase where
  | upper
  | lower
  deriving DecidableEq, Repr

def LetterCase.spell (letterCase : LetterCase) (word : String) : String :=
  match letterCase with
  | upper => word
  | lower => word.map Char.toLower

inductive Keyword where
  | SELECT | FROM | WHERE | AND | OR | NOT | IN | IS | NULL | LIKE | BETWEEN | REGEXP | AS | ON
  | JOIN | INNER | LEFT | RIGHT | FULL | OUTER | ORDER | BY | ASC | DESC | LIMIT | OFFSET | ROWS
  | FETCH | NEXT | ONLY | TOP | INSERT | INTO | VALUES | UPDATE | SET | DELETE | CAST | EXEC | CALL
  | TABLE
  deriving DecidableEq, Repr

namespace Keyword

def all : List Keyword :=
  [SELECT, FROM, WHERE, AND, OR, NOT, IN, IS, NULL, LIKE, BETWEEN, REGEXP, AS, ON, JOIN, INNER,
    LEFT, RIGHT, FULL, OUTER, ORDER, BY, ASC, DESC, LIMIT, OFFSET, ROWS, FETCH, NEXT, ONLY, TOP,
    INSERT, INTO, VALUES, UPDATE, SET, DELETE, CAST, EXEC, CALL, TABLE]

theorem mem_all (keyword : Keyword) : keyword ∈ all := by
  cases keyword <;> decide

def text : Keyword → String
  | SELECT => "SELECT"
  | FROM => "FROM"
  | WHERE => "WHERE"
  | AND => "AND"
  | OR => "OR"
  | NOT => "NOT"
  | IN => "IN"
  | IS => "IS"
  | NULL => "NULL"
  | LIKE => "LIKE"
  | BETWEEN => "BETWEEN"
  | REGEXP => "REGEXP"
  | AS => "AS"
  | ON => "ON"
  | JOIN => "JOIN"
  | INNER => "INNER"
  | LEFT => "LEFT"
  | RIGHT => "RIGHT"
  | FULL => "FULL"
  | OUTER => "OUTER"
  | ORDER => "ORDER"
  | BY => "BY"
  | ASC => "ASC"
  | DESC => "DESC"
  | LIMIT => "LIMIT"
  | OFFSET => "OFFSET"
  | ROWS => "ROWS"
  | FETCH => "FETCH"
  | NEXT => "NEXT"
  | ONLY => "ONLY"
  | TOP => "TOP"
  | INSERT => "INSERT"
  | INTO => "INTO"
  | VALUES => "VALUES"
  | UPDATE => "UPDATE"
  | SET => "SET"
  | DELETE => "DELETE"
  | CAST => "CAST"
  | EXEC => "EXEC"
  | CALL => "CALL"
  | TABLE => "TABLE"

end Keyword

inductive Mark where
  | leftParen
  | rightParen
  | comma
  | dot
  | star
  | equal
  | notEqual
  | less
  | greater
  | lessOrEqual
  | greaterOrEqual
  | tilde
  | notTilde
  | concat
  | plus
  deriving DecidableEq, Repr

namespace Mark

def text : Mark → String
  | leftParen => "("
  | rightParen => ")"
  | comma => ","
  | dot => "."
  | star => "*"
  | equal => "="
  | notEqual => "<>"
  | less => "<"
  | greater => ">"
  | lessOrEqual => "<="
  | greaterOrEqual => ">="
  | tilde => "~"
  | notTilde => "!~"
  | concat => "||"
  | plus => "+"

def isOperator : Mark → Bool
  | leftParen | rightParen | comma | dot | star => false
  | _ => true

end Mark

inductive Token where
  | keyword (keyword : Keyword)
  | mark (mark : Mark)
  deriving DecidableEq, Repr

namespace Token

def spelled (token : Token) (letterCase : LetterCase) : String :=
  match token with
  | keyword name => letterCase.spell name.text
  | mark symbol => symbol.text

def isKeyword : Token → Bool
  | keyword _ => true
  | mark _ => false

def isOperator : Token → Bool
  | keyword _ => false
  | mark symbol => symbol.isOperator

end Token

end Sql

end TypedSql
