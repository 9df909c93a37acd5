import TypedSql.Text.Pattern.CharClass

namespace TypedSql.Text.Pattern

inductive Place where
  | textStart
  | textEnd
  | lineStart (carriageReturn : Bool)
  | lineEnd (carriageReturn : Bool)
  | wordBoundary (unicode : Bool)
  | notWordBoundary (unicode : Bool)
  | wordStart (unicode : Bool)
  | wordEnd (unicode : Bool)
  | wordStartHalf (unicode : Bool)
  | wordEndHalf (unicode : Bool)

namespace Place

def isWord (unicode : Bool) (c : Option Char) : Bool :=
  match c, namedByLetter? unicode 'w' with
  | some c, some ranges => ranges.contains c
  | _, _ => false

/-- Whether the place is between two characters, either of which may be missing. Where a carriage
return ends lines, none ends inside a return with its line feed. -/
def holds (place : Place) (before after : Option Char) : Bool :=
  match place with
  | textStart => before.isNone
  | textEnd => after.isNone
  | lineStart false => before.isNone || before == some '\n'
  | lineStart true =>
    before.isNone || before == some '\n' || (before == some '\r' && after != some '\n')
  | lineEnd false => after.isNone || after == some '\n'
  | lineEnd true =>
    after.isNone || after == some '\r' || (after == some '\n' && before != some '\r')
  | wordBoundary unicode => isWord unicode before != isWord unicode after
  | notWordBoundary unicode => isWord unicode before == isWord unicode after
  | wordStart unicode => !isWord unicode before && isWord unicode after
  | wordEnd unicode => isWord unicode before && !isWord unicode after
  | wordStartHalf unicode => !isWord unicode before
  | wordEndHalf unicode => !isWord unicode after

end Place

end TypedSql.Text.Pattern
