import TypedSql.Text.Digits

namespace TypedSql.Text.Unicode

/-- A set of characters as ranges of code points, ends included. -/
abbrev Ranges := List (Nat × Nat)

namespace Ranges

def containsCode (ranges : Ranges) (code : Nat) : Bool :=
  ranges.any fun (first, last) => first ≤ code && code ≤ last

def contains (ranges : Ranges) (c : Char) : Bool :=
  ranges.containsCode c.toNat

def hexNumber (word : String) : Nat :=
  (hexNumber? word.toList).getD 0

/-- Reads ranges in hexadecimal: `41-5a` or, for a single code point, `aa`, separated by
blanks and ends of lines. -/
def ofText (text : String) : Ranges :=
  let words := (text.splitOn "\n").flatMap fun line => line.splitOn " "
  (words.filter fun word => !word.isEmpty).map fun word =>
    match word.splitOn "-" with
    | [first, last] => (hexNumber first, hexNumber last)
    | _ => (hexNumber word, hexNumber word)

end Ranges

end TypedSql.Text.Unicode
