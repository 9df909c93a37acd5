import TypedSql.Value
import TypedSql.Number.Decimal.Binary
import TypedSql.Text.Utf8

namespace TypedSql

open Number (Decimal)

inductive ConversionError where
  | typeMismatch (expected : FieldType) (found : Option FieldType)
  | outOfRange (value : String) (target : FieldType)
  | unreadable (text : String) (target : FieldType)
  | unexpectedNull (target : FieldType)
  deriving DecidableEq

def ConversionError.message : ConversionError → String
  | typeMismatch expected found => s!"expected {expected.name}, found {Value.kindName found}"
  | outOfRange value target => s!"value {value} is out of range for {target.name}"
  | unreadable text target => s!"cannot parse `{text}` as {target.name}"
  | unexpectedNull target => s!"unexpected null for non-nullable {target.name}"

namespace Value

def toInt32? (value : Int64) : Option Int32 :=
  if -0x80000000 ≤ value.toInt ∧ value.toInt < 0x80000000 then some value.toInt32 else none

/-- Reads a value that is not null as one of the type, from any representation in which a
database may hand it back. -/
def convertPresent (target : FieldType) (value : Value) : Except ConversionError Value :=
  match target, value with
  | .bool, bool v => .ok (bool v)
  | .bool, int32 v => .ok (bool (v != 0))
  | .bool, int64 v => .ok (bool (v != 0))
  | .int32, int32 v => .ok (int32 v)
  | .int32, int64 v =>
    match toInt32? v with
    | some v => .ok (int32 v)
    | none => .error (.outOfRange (toString v.toInt) .int32)
  | .int32, bool v => .ok (int32 (if v then 1 else 0))
  | .int64, int64 v => .ok (int64 v)
  | .int64, int32 v => .ok (int64 v.toInt64)
  | .int64, bool v => .ok (int64 (if v then 1 else 0))
  | .single, single v => .ok (single v)
  | .single, value =>
    match value.toDouble? with
    | some v => .ok (single v.toFloat32)
    | none => .error (.typeMismatch .single value.fieldType?)
  | .double, value =>
    match value.toDouble? with
    | some v => .ok (double v)
    | none => .error (.typeMismatch .double value.fieldType?)
  | .decimal, decimal v => .ok (decimal v)
  | .decimal, int32 v => .ok (decimal (.ofInt64 v.toInt64))
  | .decimal, int64 v => .ok (decimal (.ofInt64 v))
  | .decimal, single v =>
    match Decimal.ofSingle? v with
    | some d => .ok (decimal d)
    | none => .error (.outOfRange (Number.singleText v) .decimal)
  | .decimal, double v =>
    match Decimal.ofDouble? v with
    | some d => .ok (decimal d)
    | none => .error (.outOfRange (Number.doubleText v) .decimal)
  | .decimal, string v =>
    match Decimal.parse? v with
    | some d => .ok (decimal d)
    | none => .error (.unreadable v .decimal)
  | .string, string v => .ok (string v)
  | .string, bytes v =>
    match Text.Utf8.decode? v with
    | some s => .ok (string s)
    | none => .error (.unreadable (String.ofList (Text.Utf8.decodeLossy v)) .string)
  | .string, value => .ok (string value.text)
  | .guid, guid v => .ok (guid v)
  | .guid, string v =>
    match Guid.parse? v with
    | some g => .ok (guid g)
    | none => .error (.unreadable v .guid)
  | .guid, bytes v =>
    match Guid.ofBytes? v with
    | some g => .ok (guid g)
    | none => .error (.outOfRange s!"{v.length} bytes" .guid)
  | .datetime, datetime v => .ok (datetime v)
  | .datetime, string v =>
    match DateTime.parse? v with
    | some t => .ok (datetime t)
    | none => .error (.unreadable v .datetime)
  | .bytes, bytes v => .ok (bytes v)
  | .bytes, string v => .ok (bytes (Text.Utf8.encode v))
  | target, value => .error (.typeMismatch target value.fieldType?)

/-- Reads a value as one of the type. Null is of no type. -/
def convert (target : FieldType) : Value → Except ConversionError Value
  | null => .error (.unexpectedNull target)
  | value => value.convertPresent target

end Value

structure ColumnType where
  field : FieldType
  optional : Bool
  deriving DecidableEq, Repr, Inhabited

namespace ColumnType

/-- What a field of the type holds before anything is read into it. -/
def default (type : ColumnType) : Value :=
  if type.optional then .null
  else
    match type.field with
    | .bool => .bool false
    | .int32 => .int32 0
    | .int64 => .int64 0
    | .single => .single 0
    | .double => .double 0
    | .decimal => .decimal .zero
    | .string => .string ""
    | .guid => .guid .nil
    | .datetime => .datetime .epoch
    | .bytes => .bytes []

def admits (type : ColumnType) (value : Value) : Bool :=
  match value.fieldType? with
  | some field => field == type.field
  | none => type.optional

def convert (type : ColumnType) (value : Value) : Except ConversionError Value :=
  if type.optional && value.isNull then .ok .null else value.convert type.field

end ColumnType

end TypedSql
