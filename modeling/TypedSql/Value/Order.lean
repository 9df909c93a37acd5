import TypedSql.Value.Conversion
import TypedSql.Number.Decimal.Binary

namespace TypedSql

open Number (Decimal)

inductive Numeric where
  | int32 (value : Int32)
  | int64 (value : Int64)
  | single (value : Float32)
  | double (value : Float)
  | decimal (value : Decimal)

namespace Numeric

def ofValue? : Value → Option Numeric
  | .int32 value => some (int32 value)
  | .int64 value => some (int64 value)
  | .single value => some (single value)
  | .double value => some (double value)
  | .decimal value => some (decimal value)
  | _ => none

/-- The number as an integer, if its type holds nothing else. -/
def toInt? : Numeric → Option Int
  | int32 value => some value.toInt
  | int64 value => some value.toInt
  | _ => none

def toDouble : Numeric → Float
  | int32 value => Number.doubleOfInt value.toInt
  | int64 value => Number.doubleOfInt value.toInt
  | single value => Number.doubleOfSingle value
  | double value => value
  | decimal value => value.toDouble

def toDecimal? : Numeric → Option Decimal
  | int32 value => some (.ofInt64 value.toInt64)
  | int64 value => some (.ofInt64 value)
  | single value => Decimal.ofSingle? value
  | double value => Decimal.ofDouble? value
  | decimal value => some value

def isDecimal : Numeric → Bool
  | decimal _ => true
  | _ => false

/-- Numbers are compared as integers if both are, as decimals if one is, and as doubles else. -/
def compare? (left right : Numeric) : Option Ordering :=
  if left.isDecimal || right.isDecimal then
    match left.toDecimal?, right.toDecimal? with
    | some a, some b => some (a.compare b)
    | _, _ => none
  else
    match left.toInt?, right.toInt? with
    | some a, some b => some (compare a b)
    | _, _ => Number.Binary.compare? left.toDouble right.toDouble

end Numeric

namespace Value

/-- The order of two values that are comparable. Values that are not numbers have none. -/
def order? (left right : Value) : Option Ordering :=
  match left, right with
  | bool a, bool b => some (compare a b)
  | string a, string b => some (compare (a.toList.map Char.toNat) (b.toList.map Char.toNat))
  | guid a, guid b => some (a.compare b)
  | datetime a, datetime b => some (a.compare b)
  | bytes a, bytes b => some (compare (a.map UInt8.toNat) (b.map UInt8.toNat))
  | left, right =>
    match Numeric.ofValue? left, Numeric.ofValue? right with
    | some a, some b => a.compare? b
    | _, _ => none

/-- Values are comparable if they are of one type or both numbers. -/
def isComparable (left right : Value) : Bool :=
  left.fieldType? == right.fieldType? ||
    ((Numeric.ofValue? left).isSome && (Numeric.ofValue? right).isSome)

end Value

end TypedSql
