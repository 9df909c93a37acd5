import TypedSql.Text.Unicode.Case
import TypedSql.Text.Unicode.Property

namespace TypedSql.Text

open Unicode

def upperChars (text : List Char) : List Char :=
  text.flatMap Case.upper

/-- Whether a cased character comes first, once the characters that case looks through are
skipped. -/
def startsCased (text : List Char) : Bool :=
  match text.dropWhile Property.caseIgnorable.contains with
  | c :: _ => Property.cased.contains c
  | [] => false

/-- The lower case of `rest`, which follows the reversed text `before`. A capital sigma that ends a
word has a form of its own. -/
def lowerAfter (before : List Char) : List Char → List Char
  | [] => []
  | c :: rest =>
    let lowered :=
      if c == '\u03a3' then [if startsCased before && !startsCased rest then '\u03c2' else '\u03c3']
      else Case.lower c
    lowered ++ lowerAfter (c :: before) rest

def toUpper (text : String) : String :=
  String.ofList (upperChars text.toList)

def toLower (text : String) : String :=
  String.ofList (lowerAfter [] text.toList)

end TypedSql.Text
