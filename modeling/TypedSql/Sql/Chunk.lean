import TypedSql.Sql.Token
import TypedSql.Alias

namespace TypedSql

namespace Sql

/-- A piece of a statement. Quotes, the marks of parameters and the case of keywords are those of
the dialect and the case in which it is written. -/
inductive Chunk where
  | token (token : Token)
  | word (text : String)
  /-- The name of a function in capitals, which stands close to the parenthesis after it. -/
  | function (name : String)
  | identifier (name : String)
  | column (qualifier : Option Alias) (name : String)
  /-- Text that is written as it is. -/
  | raw (text : String)
  | parameter (name : String)
  deriving DecidableEq

namespace Chunk

def keyword (keyword : Keyword) : Chunk :=
  token (.keyword keyword)

def mark (mark : Mark) : Chunk :=
  token (.mark mark)

def number (value : Int) : Chunk :=
  raw (toString value)

def text (dialect : Dialect) (letterCase : LetterCase) : Chunk → String
  | token spelling => spelling.spelled letterCase
  | word capitals => letterCase.spell capitals
  | function name => letterCase.spell name
  | identifier name => dialect.quote name
  | column none name => dialect.quote name
  | column (some qualifier) name => qualifier.text ++ "." ++ dialect.quote name
  | raw content => content
  | parameter name => dialect.placeholder name

def isSpaced (first second : Chunk) : Bool :=
  match first, second with
  | _, token (.mark .rightParen) | _, token (.mark .comma) | _, token (.mark .dot) => false
  | token (.mark .leftParen), _ | token (.mark .dot), _ => false
  | function _, token (.mark .leftParen) => false
  | _, _ => true

end Chunk

end Sql

abbrev Sql := List Sql.Chunk

namespace Sql

def keywords (words : List Keyword) : Sql :=
  words.map Chunk.keyword

def join (separator : Token) (parts : List Sql) : Sql :=
  [Chunk.token separator].intercalate parts

def commas (parts : List Sql) : Sql :=
  join (.mark .comma) parts

def parens (inner : Sql) : Sql :=
  .mark .leftParen :: inner ++ [.mark .rightParen]

def call (name : String) (arguments : Sql) : Sql :=
  .function name :: parens arguments

def pieces (dialect : Dialect) (letterCase : LetterCase) : Sql → List String
  | [] => []
  | [last] => [last.text dialect letterCase]
  | first :: second :: rest =>
    let text := first.text dialect letterCase
    let others := pieces dialect letterCase (second :: rest)
    if first.isSpaced second then text :: " " :: others else text :: others

def render (sql : Sql) (dialect : Dialect) (letterCase : LetterCase) : String :=
  String.join (sql.pieces dialect letterCase)

end Sql

end TypedSql
