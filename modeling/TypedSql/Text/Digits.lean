namespace TypedSql.Text

/-- The decimal digits of `n`, with leading zeros up to `width`. -/
def digits (width n : Nat) : List Char :=
  let shortest := Nat.toDigits 10 n
  List.replicate (width - shortest.length) '0' ++ shortest

def hexValue? (c : Char) : Option Nat :=
  if '0' ≤ c ∧ c ≤ '9' then some (c.toNat - '0'.toNat)
  else if 'a' ≤ c ∧ c ≤ 'f' then some (c.toNat - 'a'.toNat + 10)
  else if 'A' ≤ c ∧ c ≤ 'F' then some (c.toNat - 'A'.toNat + 10)
  else none

def hexNumber? (digits : List Char) : Option Nat :=
  (digits.mapM hexValue?).map fun values => values.foldl (fun n value => 16 * n + value) 0

end TypedSql.Text
