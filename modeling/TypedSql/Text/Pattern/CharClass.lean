import TypedSql.Text.Blank
import TypedSql.Text.Unicode.Case
import TypedSql.Text.Unicode.Property
import TypedSql.Text.Unicode.Script

namespace TypedSql.Text.Pattern

open Unicode

/-- Which characters count as equal to one another. -/
inductive Folding where
  | exact
  | ascii
  | unicode
  deriving DecidableEq

def Folding.variants : Folding → Nat → List Nat
  | exact, code => [code]
  | ascii, code =>
    if (Char.ofNat code).isUpper then [code, code + 32]
    else if (Char.ofNat code).isLower then [code, code - 32]
    else [code]
  | unicode, code => code :: Case.variants code

inductive CharClass where
  | ranges (codes : Ranges) (folding : Folding)
  | union (left right : CharClass)
  | intersection (left right : CharClass)
  | difference (left right : CharClass)
  | symmetricDifference (left right : CharClass)
  | complement (inner : CharClass)

namespace CharClass

def contains (c : Char) : CharClass → Bool
  | ranges codes folding => (folding.variants c.toNat).any codes.containsCode
  | union left right => left.contains c || right.contains c
  | intersection left right => left.contains c && right.contains c
  | difference left right => left.contains c && !right.contains c
  | symmetricDifference left right => left.contains c != right.contains c
  | complement inner => !inner.contains c

def none : CharClass :=
  ranges [] .exact

def one (c : Char) (folding : Folding) : CharClass :=
  ranges [(c.toNat, c.toNat)] folding

/-- The number of ranges written, which bounds the size of an automaton for the class. -/
def width : CharClass → Nat
  | ranges codes _ => codes.length
  | union left right | intersection left right | difference left right
  | symmetricDifference left right => left.width + right.width
  | complement inner => inner.width + 1

end CharClass

def asciiLetters : Ranges := [(0x41, 0x5a), (0x61, 0x7a)]

def asciiDigits : Ranges := [(0x30, 0x39)]

def namedByLetter? (unicode : Bool) : Char → Option Ranges
  | 'd' => some (if unicode then Category.decimalNumber else asciiDigits)
  | 's' => some (if unicode then blanks else [(0x9, 0xd), (0x20, 0x20)])
  | 'w' => some (if unicode then Property.word else asciiLetters ++ asciiDigits ++ [(0x5f, 0x5f)])
  | _ => none

def asciiNamed? : String → Option Ranges
  | "alnum" => some (asciiDigits ++ asciiLetters)
  | "alpha" => some asciiLetters
  | "ascii" => some [(0x0, 0x7f)]
  | "blank" => some [(0x9, 0x9), (0x20, 0x20)]
  | "cntrl" => some [(0x0, 0x1f), (0x7f, 0x7f)]
  | "digit" => some asciiDigits
  | "graph" => some [(0x21, 0x7e)]
  | "lower" => some [(0x61, 0x7a)]
  | "print" => some [(0x20, 0x7e)]
  | "punct" => some [(0x21, 0x2f), (0x3a, 0x40), (0x5b, 0x60), (0x7b, 0x7e)]
  | "space" => some [(0x9, 0xd), (0x20, 0x20)]
  | "upper" => some [(0x41, 0x5a)]
  | "word" => some (asciiLetters ++ asciiDigits ++ [(0x5f, 0x5f)])
  | "xdigit" => some (asciiDigits ++ [(0x41, 0x46), (0x61, 0x66)])
  | _ => none

/-- Names of properties are compared without case, blanks, underscores, hyphens and a leading
"is". -/
def looseName (name : List Char) : String :=
  let kept := (name.filter fun c => !(c == ' ' || c == '_' || c == '-')).map Char.toLower
  String.ofList
    (match kept with
      | 'i' :: 's' :: rest => if rest.isEmpty || rest == ['c'] then kept else rest
      | _ => kept)

def categoryNames : List (String × String) :=
  [("letter", "l"), ("casedletter", "lc"), ("uppercaseletter", "lu"), ("lowercaseletter", "ll"),
    ("titlecaseletter", "lt"), ("modifierletter", "lm"), ("otherletter", "lo"), ("mark", "m"),
    ("combiningmark", "m"), ("nonspacingmark", "mn"), ("spacingmark", "mc"),
    ("enclosingmark", "me"), ("number", "n"), ("decimalnumber", "nd"), ("digit", "nd"),
    ("letternumber", "nl"), ("othernumber", "no"), ("punctuation", "p"), ("punct", "p"),
    ("connectorpunctuation", "pc"), ("dashpunctuation", "pd"), ("openpunctuation", "ps"),
    ("closepunctuation", "pe"), ("initialpunctuation", "pi"), ("finalpunctuation", "pf"),
    ("otherpunctuation", "po"), ("symbol", "s"), ("mathsymbol", "sm"), ("currencysymbol", "sc"),
    ("modifiersymbol", "sk"), ("othersymbol", "so"), ("separator", "z"),
    ("spaceseparator", "zs"), ("lineseparator", "zl"), ("paragraphseparator", "zp"),
    ("other", "c"), ("control", "cc"), ("cntrl", "cc"), ("format", "cf"), ("privateuse", "co"),
    ("surrogate", "cs"), ("unassigned", "cn")]

/-- Every character that has a general category other than unassigned. -/
def assigned : Ranges :=
  Category.all.flatMap (·.2)

def category? (name : String) : Option CharClass :=
  let short := (categoryNames.lookup name).getD name
  let exact (ranges : Ranges) : CharClass := .ranges ranges .exact
  match short with
  | "any" => some (exact [(0x0, 0x10ffff)])
  | "assigned" => some (exact assigned)
  | "ascii" => some (exact [(0x0, 0x7f)])
  | "lc" => some (exact
      (Category.uppercaseLetter ++ Category.lowercaseLetter ++ Category.titlecaseLetter))
  | "l" => some (exact (Category.group 'L'))
  | "m" => some (exact (Category.group 'M'))
  | "n" => some (exact (Category.group 'N'))
  | "p" => some (exact (Category.group 'P'))
  | "s" => some (exact (Category.group 'S'))
  | "z" => some (exact (Category.group 'Z'))
  | "c" => some (.union (exact (Category.group 'C')) (.complement (exact assigned)))
  | "cn" => some (.complement (exact assigned))
  | "cs" => some .none
  | _ =>
    (Category.all.find? fun (key, _) => looseName key.toList == short).map fun (_, ranges) =>
      exact ranges

def script? (name : String) : Option CharClass :=
  (Script.all.find? fun (key, _) => looseName key.toList == name).map fun (_, ranges) =>
    .ranges ranges .exact

def binaryProperty? (name : String) : Option Ranges :=
  match name with
  | "alphabetic" | "alpha" => some Property.alphabetic
  | "uppercase" | "upper" => some Property.uppercase
  | "lowercase" | "lower" => some Property.lowercase
  | "cased" => some Property.cased
  | "caseignorable" | "ci" => some Property.caseIgnorable
  | "whitespace" | "wspace" | "space" => some blanks
  | "asciihexdigit" | "ahex" => some (asciiDigits ++ [(0x41, 0x46), (0x61, 0x66)])
  | _ => none

def property? (name : List Char) : Option CharClass :=
  let name := looseName name
  ((binaryProperty? name).map fun ranges => .ranges ranges .exact) <|> category? name <|>
    script? name

def propertyValue? (name value : List Char) : Option CharClass :=
  match looseName name with
  | "generalcategory" | "gc" => category? (looseName value)
  | "script" | "sc" | "scriptextensions" | "scx" => script? (looseName value)
  | _ => none

def CharClass.fold (folding : Folding) : CharClass → CharClass
  | .ranges codes _ => .ranges codes folding
  | .union left right => .union (left.fold folding) (right.fold folding)
  | .intersection left right => .intersection (left.fold folding) (right.fold folding)
  | .difference left right => .difference (left.fold folding) (right.fold folding)
  | .symmetricDifference left right =>
    .symmetricDifference (left.fold folding) (right.fold folding)
  | .complement inner => .complement (inner.fold folding)

end TypedSql.Text.Pattern
