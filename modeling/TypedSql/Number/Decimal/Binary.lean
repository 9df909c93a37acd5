import TypedSql.Number.Decimal
import TypedSql.Number.Binary

namespace TypedSql.Number.Decimal

/-- Turns `coefficient * 5 ^ fives * 10 ^ ten` into a coefficient and a power of ten: halves an even
coefficient for a ten, else multiplies it by five, and halves with loss where that does not fit. -/
def absorbFives : Nat → Nat → Int → Nat × Int
  | 0, coefficient, ten => (coefficient, ten)
  | fives + 1, coefficient, ten =>
    if coefficient % 2 = 1 ∧ 5 * coefficient < limit then
      absorbFives fives (5 * coefficient) ten
    else
      absorbFives fives (coefficient / 2) (ten + 1)

/-- Turns `coefficient / 5 ^ fives * 10 ^ ten` into a coefficient and a power of ten: doubles a
coefficient that has room for a ten, else divides it by five with loss. No result where too many
tens would be left: this keeps out 2 ^ 96, of which a fifth with its loss and a ten would fit. -/
def removeFives? : Nat → Nat → Int → Option (Nat × Int)
  | 0, coefficient, ten => some (coefficient, ten)
  | fives + 1, coefficient, ten =>
    if coefficient < 0x800000000000000000000000 then removeFives? fives (2 * coefficient) (ten - 1)
    else if fives + 1 < 2 * ten then none
    else removeFives? fives (coefficient / 5) ten

def scaleUp? (count coefficient : Nat) : Option Nat :=
  let product := coefficient * tenTo count
  if product < limit then some product else none

/-- Divides by ten, a half upwards in the last digit only, until the scale is 28. A coefficient
that vanishes leaves a plain zero. -/
def coarsen : Nat → Nat → Nat → Nat × Nat
  | 0, coefficient, scale => (coefficient, scale)
  | fuel + 1, coefficient, scale =>
    if scale ≤ 28 then (coefficient, scale)
    else
      let quotient := coefficient / 10
      if quotient = 0 then (0, 0)
      else
        let rounded := if 5 ≤ coefficient % 10 then quotient + 1 else quotient
        coarsen fuel rounded (scale - 1)

def trim (bound : Nat) (coefficient : Nat) : Nat → Nat × Nat
  | 0 => (coefficient, 0)
  | scale + 1 =>
    if bound ≤ coefficient then trim bound ((coefficient + 5) / 10) scale
    else (coefficient, scale + 1)

def stripZeros (coefficient : Nat) : Nat → Nat × Nat
  | 0 => (coefficient, 0)
  | scale + 1 =>
    if coefficient % 10 = 0 then stripZeros (coefficient / 10) scale
    else (coefficient, scale + 1)

def ofScaled? (bound : Nat) (negative : Bool) (coefficient : Nat) (ten : Int) : Option Decimal := do
  let coefficient ← scaleUp? ten.toNat coefficient
  let (coefficient, scale) := coarsen (-ten).toNat coefficient (-ten).toNat
  let (coefficient, scale) := trim bound coefficient scale
  let (coefficient, scale) := stripZeros coefficient scale
  ofParts? negative coefficient scale

/-- The decimal of a binary number, kept to the digits its format is sure of: those of a
coefficient below `bound`. None for values that are not finite or out of range. -/
def ofBinary? (bound : Nat) : Binary → Option Decimal
  | .nan | .infinite _ => none
  | .finite negative significand exponent =>
    if significand = 0 then
      some { zero with negative := negative }
    else if exponent < 0 then
      let (coefficient, ten) := absorbFives exponent.natAbs significand exponent
      ofScaled? bound negative coefficient ten
    else do
      let (coefficient, ten) ← removeFives? exponent.natAbs significand exponent
      ofScaled? bound negative coefficient ten

def ofDouble? (value : Float) : Option Decimal :=
  ofBinary? 0x10000000000000 (Binary.ofDouble value)

def ofSingle? (value : Float32) : Option Decimal :=
  ofBinary? 0x1000000 (Binary.ofSingle value)

end TypedSql.Number.Decimal
