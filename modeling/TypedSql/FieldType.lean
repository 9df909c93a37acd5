namespace TypedSql

inductive FieldType where
  | bool
  | int32
  | int64
  | single
  | double
  | decimal
  | string
  | guid
  | datetime
  | bytes
  deriving DecidableEq, Repr, Inhabited

namespace FieldType

def all : List FieldType :=
  [bool, int32, int64, single, double, decimal, string, guid, datetime, bytes]

theorem mem_all (type : FieldType) : type ∈ all := by
  cases type <;> decide

def name : FieldType → String
  | bool => "bool"
  | int32 => "int32"
  | int64 => "int64"
  | single => "single"
  | double => "double"
  | decimal => "decimal"
  | string => "string"
  | guid => "guid"
  | datetime => "datetime"
  | bytes => "byte[]"

def isNumeric : FieldType → Bool
  | int32 | int64 | single | double | decimal => true
  | _ => false

def isTextual : FieldType → Bool
  | string => true
  | _ => false

def isTemporal : FieldType → Bool
  | datetime => true
  | _ => false

/-- Unordered pairs of types between which a projected column may be cast. -/
def castPairs : List (FieldType × FieldType) :=
  [(int32, string), (int32, int64), (int32, decimal), (int32, double), (int64, string),
    (decimal, string), (decimal, double), (single, string), (single, double), (single, decimal),
    (double, string), (guid, string), (bool, string), (bool, int32), (bytes, string),
    (datetime, string)]

/-- A cast is legal in both directions of a listed pair. No type casts to itself. -/
def canCast (source target : FieldType) : Bool :=
  source != target && castPairs.any fun pair => pair == (source, target) || pair == (target, source)

theorem canCast_comm (source target : FieldType) :
    canCast source target = canCast target source := by
  cases source <;> cases target <;> rfl

theorem canCast_self (type : FieldType) : canCast type type = false := by
  simp [canCast]

end FieldType

end TypedSql
