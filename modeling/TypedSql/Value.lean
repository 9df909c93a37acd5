import TypedSql.FieldType
import TypedSql.DateTime
import TypedSql.Guid
import TypedSql.Number.Shortest
import TypedSql.Number.Decimal.Text

namespace TypedSql

open Number (Decimal)

/-- What a parameter is bound to and what a row holds. -/
inductive Value where
  | null
  | bool (value : Bool)
  | int32 (value : Int32)
  | int64 (value : Int64)
  | single (value : Float32)
  | double (value : Float)
  | decimal (value : Decimal)
  | string (value : String)
  | guid (value : Guid)
  | datetime (value : DateTime)
  | bytes (value : List UInt8)
  deriving Inhabited

namespace Value

def fieldType? : Value → Option FieldType
  | null => none
  | bool _ => some .bool
  | int32 _ => some .int32
  | int64 _ => some .int64
  | single _ => some .single
  | double _ => some .double
  | decimal _ => some .decimal
  | string _ => some .string
  | guid _ => some .guid
  | datetime _ => some .datetime
  | bytes _ => some .bytes

def kindName : Option FieldType → String
  | some type => type.name
  | none => "null"

def kind (value : Value) : String :=
  kindName value.fieldType?

def isNull : Value → Bool
  | null => true
  | _ => false

def string? : Value → Option String
  | string value => some value
  | _ => none

/-- A truth value or an integer as a 64-bit integer. -/
def toInt64? : Value → Option Int64
  | bool value => some (if value then 1 else 0)
  | int32 value => some value.toInt64
  | int64 value => some value
  | _ => none

def toDouble? : Value → Option Float
  | int32 value => some (Number.doubleOfInt value.toInt)
  | int64 value => some (Number.doubleOfInt value.toInt)
  | single value => some (Number.doubleOfSingle value)
  | double value => some value
  | decimal value => some value.toDouble
  | _ => none

/-- The text of a value in messages: strings stand in quotes, nothing in them is escaped. -/
def text : Value → String
  | null => "NULL"
  | bool value => if value then "true" else "false"
  | int32 value => toString value.toInt
  | int64 value => toString value.toInt
  | single value => Number.singleText value
  | double value => Number.doubleText value
  | decimal value => value.text
  | string value => "'" ++ value ++ "'"
  | guid value => value.text
  | datetime value => value.text
  | bytes value => "<" ++ toString value.length ++ " bytes>"

end Value

end TypedSql
