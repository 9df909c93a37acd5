import TypedSql.Number.Decimal
import TypedSql.Text.Digits

namespace TypedSql.Number.Decimal

def text (value : Decimal) : String :=
  let digits := Text.digits (value.scale + 1) value.coefficient
  let whole := digits.length - value.scale
  let fraction := if value.scale = 0 then [] else '.' :: digits.drop whole
  String.ofList ((if value.negative then ['-'] else []) ++ digits.take whole ++ fraction)

structure Reading where
  negative : Bool
  coefficient : Nat
  scale : Nat
  point : Bool
  digit : Bool

namespace Reading

def start (negative : Bool) : Reading :=
  ⟨negative, 0, 0, false, false⟩

def finish? (reading : Reading) : Option Decimal :=
  ofUnsignedZero? reading.negative reading.coefficient reading.scale

/-- The character at which the digits no longer fit decides whether the last one that fits is
rounded up; what follows it is not looked at. -/
def finishBefore? (reading : Reading) (next : Char) : Option Decimal :=
  let coefficient := reading.coefficient + 1
  if '5' ≤ next ∧ next ≤ '9' then
    if coefficient < limit then
      { reading with coefficient }.finish?
    else if reading.scale = 0 then
      none
    else
      { reading with coefficient := (coefficient + 4) / 10, scale := reading.scale - 1 }.finish?
  else if next.isDigit || next == '_' || next == '.' then
    reading.finish?
  else
    none

def digits? (reading : Reading) : List Char → Option Decimal
  | [] => if reading.digit then reading.finish? else none
  | next :: rest =>
    if reading.point && reading.scale == 28 then
      reading.finishBefore? next
    else if next.isDigit then
      let coefficient := reading.coefficient * 10 + (next.toNat - '0'.toNat)
      if coefficient < limit then
        let scale := if reading.point then reading.scale + 1 else 0
        { reading with coefficient, scale, digit := true }.digits? rest
      else if reading.point then
        reading.finishBefore? next
      else
        none
    else if next == '.' && !reading.point then
      { reading with point := true }.digits? rest
    else if next == '_' && reading.digit then
      reading.digits? rest
    else
      none

end Reading

/-- Reads a sign, digits with at most one point, and underscores after the first digit. Digits
beyond the range of the coefficient or the scale are rounded away, a half upwards. -/
def ofPositional? : List Char → Option Decimal
  | '-' :: rest => (Reading.start true).digits? rest
  | '+' :: rest => (Reading.start false).digits? rest
  | text => (Reading.start false).digits? text

def stripFraction (negative : Bool) (coefficient : Nat) : Nat → Option Decimal
  | 0 => ofUnsignedZero? negative coefficient 0
  | scale + 1 =>
    if coefficient % 10 = 0 then stripFraction negative (coefficient / 10) scale
    else ofUnsignedZero? negative coefficient (scale + 1)

/-- Moves the point by at most 28 places to the left, rounding a half upwards at scale 28. -/
def shiftLeft? (value : Decimal) (places : Nat) : Option Decimal :=
  if 28 < places then none
  else
    let scale := min 28 (value.scale + places)
    let coefficient :=
      Number.divHalfUp value.coefficient (tenTo (value.scale + places - scale))
    ofUnsignedZero? value.negative coefficient scale

def multiplyTens? : Nat → Nat → Decimal → Option Decimal
  | 0, _, value => some value
  | _, 0, value => some value
  | fuel + 1, places, value => do
    let step := min 9 places
    let factor ← ofParts? false (tenTo step) 0
    multiplyTens? fuel (places - step) (← value.mul? factor)

/-- Moves the point to the right: first through the scale, and no more than 28 places beyond. -/
def shiftRight? (value : Decimal) (places : Nat) : Option Decimal :=
  if places ≤ value.scale then
    ofUnsignedZero? value.negative value.coefficient (value.scale - places)
  else if 28 < places then
    none
  else do
    let product ← multiplyTens? 4 places value
    stripFraction product.negative product.coefficient product.scale

def readPlaces? (text : List Char) : Option Nat :=
  let digits := if text.head? = some '+' then text.drop 1 else text
  if digits.isEmpty || digits.any (!·.isDigit) then none
  else some (Nat.ofDigitChars 10 digits 0)

def ofChars? (text : List Char) : Option Decimal :=
  let isMark (c : Char) : Bool := c == 'e' || c == 'E'
  match text.dropWhile (!isMark ·) with
  | [] => ofPositional? text
  | _ :: power => do
    let value ← ofPositional? (text.takeWhile (!isMark ·))
    match power with
    | '-' :: places => value.shiftLeft? (← readPlaces? places)
    | places => value.shiftRight? (← readPlaces? places)

def parse? (text : String) : Option Decimal :=
  ofChars? text.toList

end TypedSql.Number.Decimal
