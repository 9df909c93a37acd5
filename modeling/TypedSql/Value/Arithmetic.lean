import TypedSql.Value.Order
import TypedSql.Expr

namespace TypedSql

open Number (Decimal)

namespace Arithmetic

/-- The exact result on integers, the quotient cut towards zero. -/
def onInt? : Arithmetic → Int → Int → Option Int
  | add, a, b => some (a + b)
  | sub, a, b => some (a - b)
  | mul, a, b => some (a * b)
  | div, a, b => if b = 0 then none else some (a.tdiv b)

def onDecimal? : Arithmetic → Decimal → Decimal → Option Decimal
  | add => Decimal.add?
  | sub => Decimal.sub?
  | mul => Decimal.mul?
  | div => Decimal.div?

/-- Doubles may overflow to infinity, but not be divided by zero. -/
def onDouble? : Arithmetic → Float → Float → Option Float
  | add, a, b => some (a + b)
  | sub, a, b => some (a - b)
  | mul, a, b => some (a * b)
  | div, a, b => if b == 0 then none else some (a / b)

end Arithmetic

namespace Numeric

def ofInt64? (value : Int) : Option Numeric :=
  if -0x8000000000000000 ≤ value ∧ value < 0x8000000000000000 then
    some (int64 (Int64.ofInt value))
  else none

def ofInt32? (value : Int) : Option Numeric :=
  if -0x80000000 ≤ value ∧ value < 0x80000000 then some (int32 (Int32.ofInt value)) else none

def toValue : Numeric → Value
  | int32 value => .int32 value
  | int64 value => .int64 value
  | single value => .single value
  | double value => .double value
  | decimal value => .decimal value

def isDouble : Numeric → Bool
  | double _ => true
  | _ => false

/-- The result is a decimal if an operand is one, else a double or a single if one is, and else an
integer of the wider type. No result if it is out of range or a division by zero. -/
def calculate? (operator : Arithmetic) (left right : Numeric) : Option Numeric :=
  if left.isDecimal || right.isDecimal then do
    let result ← operator.onDecimal? (← left.toDecimal?) (← right.toDecimal?)
    some (decimal result)
  else
    match left, right with
    | int32 a, int32 b => (operator.onInt? a.toInt b.toInt).bind ofInt32?
    | left, right =>
      match left.toInt?, right.toInt? with
      | some a, some b => (operator.onInt? a b).bind ofInt64?
      | _, _ =>
        (operator.onDouble? left.toDouble right.toDouble).map fun result =>
          if left.isDouble || right.isDouble then double result else single result.toFloat32

def abs? : Numeric → Option Numeric
  | int32 value => ofInt32? value.toInt.natAbs
  | int64 value => ofInt64? value.toInt.natAbs
  | single value => some (single value.abs)
  | double value => some (double value.abs)
  | decimal value => some (decimal value.abs)

/-- Rounds to a number of places, a half to the even neighbour. Only binary numbers can be rounded
to places before the point. -/
def round? (places : Int) : Numeric → Option Numeric
  | single value =>
    let scaling := Number.power 10 places
    some (single (Number.roundEven (Number.doubleOfSingle value * scaling) / scaling).toFloat32)
  | double value =>
    let scaling := Number.power 10 places
    some (double (Number.roundEven (value * scaling) / scaling))
  | decimal value => if places < 0 then none else some (decimal (value.round places.toNat))
  | value => if places < 0 then none else some value

end Numeric

end TypedSql
