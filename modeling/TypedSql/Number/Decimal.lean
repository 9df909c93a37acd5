import TypedSql.Number.Rounding

namespace TypedSql.Number

def Decimal.limit : Nat :=
  0x1000000000000000000000000

/-- A signed decimal `± coefficient / 10 ^ scale`. Its scale shows when it is printed, so equal
numbers may be different decimals; zero has a sign. -/
structure Decimal where
  negative : Bool
  coefficient : Nat
  scale : Nat
  coefficient_lt : coefficient < Decimal.limit
  scale_le : scale ≤ 28
  deriving DecidableEq, Repr

namespace Decimal

def zero : Decimal := ⟨false, 0, 0, by decide, by decide⟩

instance : Inhabited Decimal := ⟨zero⟩

def ofParts? (negative : Bool) (coefficient scale : Nat) : Option Decimal :=
  if bounds : coefficient < limit ∧ scale ≤ 28 then
    some ⟨negative, coefficient, scale, bounds.1, bounds.2⟩
  else
    none

def ofUnsignedZero? (negative : Bool) (coefficient scale : Nat) : Option Decimal :=
  ofParts? (negative && coefficient != 0) coefficient scale

def ofInt64 (value : Int64) : Decimal where
  negative := value.toInt < 0
  coefficient := value.toInt.natAbs
  scale := 0
  coefficient_lt := by
    have low := value.le_toInt
    have high := value.toInt_lt
    unfold limit
    omega
  scale_le := by decide

def isZero (value : Decimal) : Bool :=
  value.coefficient == 0

def signed (value : Decimal) : Int :=
  if value.negative then -value.coefficient else value.coefficient

/-- The number in units of the finest scale, which orders decimals by value. -/
def units (value : Decimal) : Int :=
  value.signed * tenTo (28 - value.scale)

def compare (left right : Decimal) : Ordering :=
  Ord.compare left.units right.units

def abs (value : Decimal) : Decimal :=
  { value with negative := false }

def neg (value : Decimal) : Decimal :=
  { value with negative := !value.negative }

def toInt64? (value : Decimal) : Option Int64 :=
  let whole := value.signed.tdiv (tenTo value.scale)
  if value.coefficient % tenTo value.scale = 0 ∧ -0x8000000000000000 ≤ whole ∧
      whole < 0x8000000000000000 then
    some (Int64.ofInt whole)
  else
    none

/-- Drops the fewest digits that bring `coefficient` and `scale` into range, rounding what is
dropped to even. No result if even at scale zero the coefficient is too large. -/
def fit? (negative : Bool) (coefficient scale : Nat) : Option Decimal :=
  (List.range (min scale 28 + 1)).findSome? fun step =>
    let dropped := scale - 28 + step
    ofUnsignedZero? negative (divHalfEven coefficient (tenTo dropped)) (scale - dropped)

/-- The sum at the finer of the two scales. A zero leaves the other operand as it is. -/
def add? (left right : Decimal) : Option Decimal :=
  if left.isZero then some right
  else if right.isZero then some left
  else
    let scale := max left.scale right.scale
    let sum := left.signed * tenTo (scale - left.scale) + right.signed * tenTo (scale - right.scale)
    fit? (sum < 0) sum.natAbs scale

def sub? (left right : Decimal) : Option Decimal :=
  if right.isZero then
    if left.isZero then some right else some left
  else
    left.add? right.neg

/-- The product at the sum of the scales. Coefficients of 32 bits whose product is beyond
19 digits too fine give a plain zero. -/
def mul? (left right : Decimal) : Option Decimal :=
  let scale := left.scale + right.scale
  if left.isZero || right.isZero then
    some zero
  else if left.coefficient < 0x100000000 ∧ right.coefficient < 0x100000000 ∧ 47 < scale then
    some zero
  else
    fit? (left.negative != right.negative) (left.coefficient * right.coefficient) scale

/-- A division under way: the quotient so far, what is left of the dividend, the quotient's scale
(which may still be negative) and whether a remainder was ever met. -/
structure Quotient where
  value : Nat
  remainder : Nat
  scale : Int
  inexact : Bool

namespace Quotient

def room (quotient : Quotient) : Nat :=
  ((List.range 10).reverse.find? fun (digits : Nat) =>
    quotient.scale + digits ≤ 28 && quotient.value * tenTo digits < limit).getD 0

def shrink? (quotient : Quotient) : Option Quotient :=
  if quotient.scale < 1 then
    none
  else
    let last := quotient.value % 10
    let value := quotient.value / 10
    let up := 5 < last ∨ (last = 5 ∧ (quotient.remainder ≠ 0 ∨ value % 2 = 1))
    some { quotient with value := if up then value + 1 else value, scale := quotient.scale - 1 }

def round? (quotient : Quotient) (divisor : Nat) : Option Quotient :=
  let twice := 2 * quotient.remainder
  let up := divisor < twice ∨ (twice = divisor ∧ quotient.value % 2 = 1)
  let rounded := { quotient with value := if up then quotient.value + 1 else quotient.value }
  if rounded.value < limit then some rounded else rounded.shrink?

/-- Appends digits until nothing remains or there is no more room. Every round adds a digit, and
no more than 57 lie between the coarsest and the finest scale. -/
def extend? (divisor : Nat) : Nat → Quotient → Option Quotient
  | 0, _ => none
  | fuel + 1, quotient =>
    let append (digits : Nat) : Option Quotient :=
      let grown := quotient.value * tenTo digits
      let carried := quotient.remainder * tenTo digits
      let next : Quotient :=
        { value := grown + carried / divisor
          remainder := carried % divisor
          scale := quotient.scale + digits
          inexact := quotient.inexact || quotient.remainder != 0 }
      if limit ≤ grown then none
      else if limit ≤ next.value then next.shrink?
      else extend? divisor fuel next
    if quotient.remainder = 0 then
      if 0 ≤ quotient.scale then some quotient else append (min 9 (-quotient.scale).toNat)
    else
      let digits := quotient.room
      if digits < 9 ∧ quotient.scale + digits < 0 then none
      else if digits = 0 then { quotient with inexact := true }.round? divisor
      else append digits

def strip (digits : Nat) (quotient : Quotient) : Quotient :=
  if quotient.value % tenTo digits = 0 ∧ digits ≤ quotient.scale then
    { quotient with value := quotient.value / tenTo digits, scale := quotient.scale - digits }
  else
    quotient

/-- Strips eight zeros at a time while the low 32 bits are clear. -/
def stripEights : Nat → Quotient → Quotient
  | 0, quotient => quotient
  | fuel + 1, quotient =>
    if quotient.value % 0x100000000 = 0 ∧ quotient.value % tenTo 8 = 0 ∧ 8 ≤ quotient.scale then
      stripEights fuel (quotient.strip 8)
    else
      quotient

def stripZeros (quotient : Quotient) : Quotient :=
  (((quotient.stripEights 4).strip 4).strip 2).strip 1

end Quotient

def div? (dividend divisor : Decimal) : Option Decimal :=
  if divisor.isZero then none
  else if dividend.isZero then some zero
  else do
    let start : Quotient :=
      { value := dividend.coefficient / divisor.coefficient
        remainder := dividend.coefficient % divisor.coefficient
        scale := (dividend.scale : Int) - divisor.scale
        inexact := false }
    let quotient ← start.extend? divisor.coefficient 64
    let quotient := if quotient.inexact then quotient.stripZeros else quotient
    ofUnsignedZero? (dividend.negative != divisor.negative) quotient.value quotient.scale.toNat

/-- Rounds to `places` digits after the point, a half to even. A coarser scale stays. -/
def round (value : Decimal) (places : Nat) : Decimal :=
  if value.scale ≤ places then
    value
  else
    let coefficient := divHalfEven value.coefficient (tenTo (value.scale - places))
    (ofParts? (value.negative && (value.isZero || coefficient != 0)) coefficient places).getD value

/-- The nearest double by way of the whole part and the fraction, cleaned of the digits beyond the
scale. -/
def toDouble (value : Decimal) : Float :=
  if value.scale = 0 then
    let whole := doubleOfNat value.coefficient
    if value.negative && !value.isZero then -whole else whole
  else
    let unit := tenTo value.scale
    let whole := doubleOfNat (value.coefficient / unit)
    let fraction := doubleOfNat (value.coefficient % unit) / doubleOfNat unit
    let scaling := power 10 value.scale
    let magnitude :=
      if fraction == 0 then whole else ((whole + fraction) * scaling).round / scaling
    if value.negative then -magnitude else magnitude

end Decimal

end TypedSql.Number
