import TypedSql.Text.Unicode.Ranges

namespace TypedSql.Text

/-- The characters with the Unicode property White_Space. -/
def blanks : Unicode.Ranges :=
  [(0x9, 0xd), (0x20, 0x20), (0x85, 0x85), (0xa0, 0xa0), (0x1680, 0x1680), (0x2000, 0x200a),
    (0x2028, 0x2029), (0x202f, 0x202f), (0x205f, 0x205f), (0x3000, 0x3000)]

def isBlank (c : Char) : Bool :=
  blanks.contains c

def skipBlanks (text : List Char) : List Char :=
  text.dropWhile isBlank

def trimChars (text : List Char) : List Char :=
  (skipBlanks (skipBlanks text).reverse).reverse

def trim (text : String) : String :=
  String.ofList (trimChars text.toList)

end TypedSql.Text
