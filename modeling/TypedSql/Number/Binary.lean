import TypedSql.Number.Power

namespace TypedSql.Number

/-- What the bits of a binary floating-point number denote: a finite one is
`significand * 2 ^ exponent` with a sign of its own, also at zero. -/
inductive Binary where
  | nan
  | infinite (negative : Bool)
  | finite (negative : Bool) (significand : Nat) (exponent : Int)
  deriving DecidableEq, Repr

namespace Binary

structure Format where
  fractionBits : Nat
  exponentBits : Nat

namespace Format

def single : Format := ⟨23, 8⟩

def double : Format := ⟨52, 11⟩

def leastExponent (format : Format) : Int :=
  2 - twoTo (format.exponentBits - 1) - format.fractionBits

def read (format : Format) (bits : Nat) : Binary :=
  let fraction := bits % twoTo format.fractionBits
  let field := bits / twoTo format.fractionBits % twoTo format.exponentBits
  let negative := bits / twoTo (format.fractionBits + format.exponentBits) % 2 == 1
  if field + 1 = twoTo format.exponentBits then
    if fraction = 0 then infinite negative else nan
  else if field = 0 then
    finite negative fraction format.leastExponent
  else
    finite negative (fraction + twoTo format.fractionBits) (format.leastExponent + field - 1)

end Format

def ofDouble (value : Float) : Binary :=
  Format.double.read value.toBits.toNat

def ofSingle (value : Float32) : Binary :=
  Format.single.read value.toBits.toNat

/-- A number whose order is that of the doubles it stands for: the two zeros share one, and a
value that is not a number has none. -/
def orderKey? (value : Float) : Option Int :=
  let bits := value.toBits.toNat
  let magnitude : Nat := bits % 0x8000000000000000
  if 0x7ff0000000000000 < magnitude then none
  else if bits < 0x8000000000000000 then some (magnitude : Nat)
  else some (-(magnitude : Nat))

def compare? (left right : Float) : Option Ordering :=
  match orderKey? left, orderKey? right with
  | some a, some b => some (compare a b)
  | _, _ => none

end Binary

end TypedSql.Number
