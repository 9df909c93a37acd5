import TypedSql.Number.Power
import TypedSql.Text.Digits

namespace TypedSql

/-- A universally unique identifier: 128 bits, in text the most significant first. -/
structure Guid where
  bits : BitVec 128
  deriving DecidableEq

namespace Guid

def nil : Guid := ⟨0⟩

instance : Inhabited Guid := ⟨nil⟩

def compare (left right : Guid) : Ordering :=
  Ord.compare left.bits.toNat right.bits.toNat

def hexDigit (digit : Nat) : Char :=
  Nat.digitChar (digit % 16)

def hexDigits (guid : Guid) : List Char :=
  (List.range 32).map fun i => hexDigit (guid.bits.toNat / Number.twoTo (4 * (31 - i)))

def hyphenate (digits : List Char) : List Char :=
  digits.take 8 ++ '-' :: (digits.drop 8).take 4 ++ '-' :: (digits.drop 12).take 4 ++
    '-' :: (digits.drop 16).take 4 ++ '-' :: digits.drop 20

def text (guid : Guid) : String :=
  String.ofList (hyphenate guid.hexDigits)

def ofHexDigits? (digits : List Char) : Option Guid :=
  if digits.length = 32 then
    (Text.hexNumber? digits).map fun bits => ⟨BitVec.ofNat 128 bits⟩
  else
    none

def ofHyphenated? (text : List Char) : Option Guid :=
  let digits := text.filter (· != '-')
  if digits.length = 32 ∧ hyphenate digits = text then ofHexDigits? digits else none

/-- The four written forms: plain digits, hyphenated, hyphenated in braces, and as a name in
either case. -/
def parse? (text : String) : Option Guid :=
  let chars := text.toList
  let braced :=
    if chars.head? = some '\x7b' ∧ chars.getLast? = some '\x7d' then
      ofHyphenated? (chars.drop 1).dropLast
    else none
  let named :=
    if (chars.take 9).map Char.toLower = "urn:uuid:".toList then ofHyphenated? (chars.drop 9)
    else none
  ofHexDigits? chars <|> ofHyphenated? chars <|> braced <|> named

def ofBytes? (bytes : List UInt8) : Option Guid :=
  if bytes.length = 16 then
    some ⟨BitVec.ofNat 128 (bytes.foldl (fun bits byte => 256 * bits + byte.toNat) 0)⟩
  else
    none

end Guid

end TypedSql
