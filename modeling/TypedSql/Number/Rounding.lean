import TypedSql.Number.Power

namespace TypedSql.Number

/-- The quotient rounded to the nearest whole number, a half to the even neighbour. -/
def divHalfEven (dividend divisor : Nat) : Nat :=
  let quotient := dividend / divisor
  let remainder := dividend % divisor
  if 2 * remainder < divisor then quotient
  else if divisor < 2 * remainder then quotient + 1
  else quotient + quotient % 2

/-- The quotient rounded to the nearest whole number, a half upwards. -/
def divHalfUp (dividend divisor : Nat) : Nat :=
  (2 * dividend + divisor) / (2 * divisor)

/-- The double nearest to a natural number. Beyond 64 bits the bits that do not fit are gathered
into the lowest one, which is too low to be mistaken for half a unit. -/
def doubleOfNat (n : Nat) : Float :=
  if n < 0x10000000000000000 then
    n.toUInt64.toFloat
  else
    let shift := n.log2 - 62
    let sticky := if n % twoTo shift = 0 then 0 else 1
    (n / twoTo shift ||| sticky).toUInt64.toFloat.scaleB shift

def doubleOfInt (value : Int) : Float :=
  .ofModel (.ofInt value)

def widen : Float.Model.UnpackedFloat → Float.Model.UnpackedFloat
  | .finite sign mantissa exponent _ => .round .binary64 sign mantissa exponent
  | value => value

def doubleOfSingle (value : Float32) : Float :=
  .ofModel (.pack (widen value.toModel.unpack))

def powerStep (result base : Float) (exponent : Nat) : Float :=
  let result := if exponent % 2 = 1 then result * base else result
  if _more : 0 < exponent / 2 then powerStep result (base * base) (exponent / 2) else result
termination_by exponent

def power (base : Float) (exponent : Int) : Float :=
  let result := powerStep 1 base exponent.natAbs
  if exponent < 0 then 1 / result else result

def roundEven (value : Float) : Float :=
  let rounded := value.round
  if (value - rounded).abs == 0.5 then 2 * (value / 2).round else rounded

end TypedSql.Number
