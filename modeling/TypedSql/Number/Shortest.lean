import TypedSql.Number.Binary

namespace TypedSql.Number

structure Numeral where
  digits : Nat
  exponent : Int
  deriving DecidableEq, Repr

namespace Numeral

def zeros (count : Nat) : String :=
  String.ofList (List.replicate count '0')

/-- Positional text, never with an exponent; a fraction appears only where it is needed. -/
def text (numeral : Numeral) : String :=
  let digits := toString numeral.digits
  if 0 ≤ numeral.exponent then
    digits ++ zeros numeral.exponent.toNat
  else
    let places := (-numeral.exponent).toNat
    let padded := zeros (places + 1 - digits.length) ++ digits
    let whole := padded.length - places
    String.ofList (padded.toList.take whole) ++ "." ++ String.ofList (padded.toList.drop whole)

end Numeral

namespace Binary

/-- The reals that are read as one positive binary number, in quarters of its unit: all strictly
between `low` and `high`, and these two as well where `closed`. -/
structure Interval where
  low : Nat
  value : Nat
  high : Nat
  closed : Bool
  exponent : Int

/-- The gap below a power of two is half as wide as the gap above it, the least binade apart. -/
def Format.interval (format : Format) (significand : Nat) (exponent : Int) : Interval :=
  let narrow := significand = twoTo format.fractionBits ∧ format.leastExponent < exponent
  { low := 4 * significand - (if narrow then 1 else 2)
    value := 4 * significand
    high := 4 * significand + 2
    closed := significand % 2 == 0
    exponent := exponent - 2 }

namespace Interval

def compareWith (interval : Interval) (quarters digits : Nat) (exponent : Int) : Ordering :=
  compare (quarters * twoTo interval.exponent.toNat * tenTo (-exponent).toNat)
    (digits * tenTo exponent.toNat * twoTo (-interval.exponent).toNat)

def contains (interval : Interval) (digits : Nat) (exponent : Int) : Bool :=
  let below := interval.compareWith interval.low digits exponent
  let above := interval.compareWith interval.high digits exponent
  (below == .lt || (interval.closed && below == .eq)) &&
    (above == .gt || (interval.closed && above == .eq))

def floor (interval : Interval) (exponent : Int) : Nat :=
  interval.value * twoTo interval.exponent.toNat * tenTo (-exponent).toNat /
    (tenTo exponent.toNat * twoTo (-interval.exponent).toNat)

/-- The neighbour of the value on the grid of `10 ^ exponent` that reads back, the nearer one if
both do, the upper one if they are equally near. -/
def nearest? (interval : Interval) (exponent : Int) : Option Numeral :=
  let lower := interval.floor exponent
  match interval.contains lower exponent, interval.contains (lower + 1) exponent with
  | true, true =>
    match interval.compareWith (2 * interval.value) (2 * lower + 1) exponent with
    | .lt => some ⟨lower, exponent⟩
    | _ => some ⟨lower + 1, exponent⟩
  | true, false => some ⟨lower, exponent⟩
  | false, true => some ⟨lower + 1, exponent⟩
  | false, false => none

def coarsest (interval : Interval) : Int :=
  (toString (interval.floor 0)).length

/-- The first hit on ever finer grids. Every double hits within the grids searched. -/
def shortest (interval : Interval) : Numeral :=
  ((List.range 400).findSome? fun (step : Nat) => interval.nearest? (interval.coarsest - step)).getD
    ⟨interval.value, 0⟩

end Interval

def Format.shortest (format : Format) (significand : Nat) (exponent : Int) : Numeral :=
  (format.interval significand exponent).shortest

def text (format : Format) : Binary → String
  | nan => "NaN"
  | infinite negative => if negative then "-inf" else "inf"
  | finite negative significand exponent =>
    (if negative then "-" else "") ++
      if significand = 0 then "0" else (format.shortest significand exponent).text

end Binary

def doubleText (value : Float) : String :=
  (Binary.ofDouble value).text .double

def singleText (value : Float32) : String :=
  (Binary.ofSingle value).text .single

end TypedSql.Number
