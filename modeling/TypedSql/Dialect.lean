import TypedSql.FieldType

namespace TypedSql

structure UnknownDialect where
  spelling : String
  deriving DecidableEq, Repr

def UnknownDialect.message (error : UnknownDialect) : String :=
  "unknown dialect \x60" ++ error.spelling ++ "\x60"

inductive Dialect where
  | sqlServer
  | mySql
  | postgres
  | sqlLite
  | oracle
  deriving DecidableEq, Repr, Inhabited

namespace Dialect

def all : List Dialect :=
  [sqlServer, mySql, postgres, sqlLite, oracle]

theorem mem_all (dialect : Dialect) : dialect ∈ all := by
  cases dialect <;> decide

def default : Dialect := postgres

def name : Dialect → String
  | sqlServer => "sqlserver"
  | mySql => "mysql"
  | postgres => "postgres"
  | sqlLite => "sqllite"
  | oracle => "oracle"

def spellings : List (String × Dialect) :=
  [("sqlserver", sqlServer), ("mssql", sqlServer), ("mysql", mySql), ("mariadb", mySql),
    ("postgres", postgres), ("postgresql", postgres), ("pg", postgres), ("sqllite", sqlLite),
    ("sqlite", sqlLite), ("oracle", oracle)]

def ofSpelling? (text : String) : Option Dialect :=
  spellings.lookup text

/-- The dialect spelled `text` in any mix of upper and lower case ASCII letters. -/
def parse? (text : String) : Option Dialect :=
  ofSpelling? (text.map Char.toLower)

def parse (text : String) : Except UnknownDialect Dialect :=
  match parse? text with
  | some dialect => .ok dialect
  | none => .error ⟨text⟩

theorem ofSpelling?_name (dialect : Dialect) : ofSpelling? dialect.name = some dialect := by
  cases dialect <;> decide

structure Quotes where
  opening : Char
  closing : Char
  deriving DecidableEq, Repr

def quotes : Dialect → Quotes
  | sqlServer => ⟨'[', ']'⟩
  | mySql => ⟨'\x60', '\x60'⟩
  | postgres | sqlLite | oracle => ⟨'"', '"'⟩

/-- The characters of a quoted identifier: a closing quote inside `name` is written twice. -/
def quoteChars (dialect : Dialect) (name : List Char) : List Char :=
  let closing := dialect.quotes.closing
  dialect.quotes.opening ::
    name.flatMap (fun c => if c = closing then [closing, c] else [c]) ++ [closing]

def quote (dialect : Dialect) (name : String) : String :=
  String.ofList (dialect.quoteChars name.toList)

inductive Marker where
  | atSign
  | colon
  deriving DecidableEq, Repr

def Marker.char : Marker → Char
  | .atSign => '@'
  | .colon => ':'

def Marker.placeholder (marker : Marker) (name : String) : String :=
  marker.char.toString ++ name

def marker : Dialect → Marker
  | oracle => .colon
  | _ => .atSign

def placeholder (dialect : Dialect) (name : String) : String :=
  dialect.marker.placeholder name

def castName : Dialect → FieldType → String
  | sqlServer, .string => "nvarchar(max)"
  | sqlServer, .int32 => "int"
  | sqlServer, .int64 => "bigint"
  | sqlServer, .decimal => "decimal(18,4)"
  | sqlServer, .double => "float"
  | sqlServer, .single => "real"
  | sqlServer, .bool => "bit"
  | sqlServer, .guid => "uniqueidentifier"
  | sqlServer, .datetime => "datetime2"
  | sqlServer, .bytes => "varbinary(max)"
  | mySql, .string => "char"
  | mySql, .int32 | mySql, .int64 => "signed"
  | mySql, .decimal => "decimal(18,4)"
  | mySql, .double => "double"
  | mySql, .single => "float"
  | mySql, .bool => "unsigned"
  | mySql, .guid => "char(36)"
  | mySql, .datetime => "datetime"
  | mySql, .bytes => "binary"
  | postgres, .string => "text"
  | postgres, .int32 => "integer"
  | postgres, .int64 => "bigint"
  | postgres, .decimal => "numeric"
  | postgres, .double => "double precision"
  | postgres, .single => "real"
  | postgres, .bool => "boolean"
  | postgres, .guid => "uuid"
  | postgres, .datetime => "timestamp"
  | postgres, .bytes => "bytea"
  | sqlLite, .string | sqlLite, .guid | sqlLite, .datetime => "text"
  | sqlLite, .int32 | sqlLite, .int64 | sqlLite, .bool => "integer"
  | sqlLite, .decimal => "numeric"
  | sqlLite, .double | sqlLite, .single => "real"
  | sqlLite, .bytes => "blob"
  | oracle, .string => "nvarchar2(2000)"
  | oracle, .int32 => "number(10)"
  | oracle, .int64 => "number(19)"
  | oracle, .decimal => "number(18,4)"
  | oracle, .double => "binary_double"
  | oracle, .single => "binary_float"
  | oracle, .bool => "number(1)"
  | oracle, .guid => "raw(16)"
  | oracle, .datetime => "timestamp"
  | oracle, .bytes => "blob"

end Dialect

end TypedSql
