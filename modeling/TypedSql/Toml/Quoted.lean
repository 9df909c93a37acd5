import TypedSql.Toml.Blank
import TypedSql.Text.Digits

namespace TypedSql.Toml

/-- How a string is quoted: with escapes or without, on one line or on several. -/
structure Quoting where
  hasEscapes : Bool
  isMultiline : Bool

namespace Quoting

def quote (quoting : Quoting) : Char :=
  if quoting.hasEscapes then '"' else '\''

def escapes : List (Char × Char) :=
  [('b', '\x08'), ('t', '\t'), ('n', '\n'), ('f', '\x0c'), ('r', '\r'), ('e', '\x1b'),
    ('"', '"'), ('\\', '\\')]

def readCode (width : Nat) (input : List Char) : Option (Char × List Char) := do
  let digits := input.take width
  let code ← Text.hexNumber? digits
  if digits.length = width ∧ code.isValidChar then
    some (Char.ofNat code, input.drop width)
  else none

def readEscape : List Char → Option (Char × List Char)
  | 'x' :: rest => readCode 2 rest
  | 'u' :: rest => readCode 4 rest
  | 'U' :: rest => readCode 8 rest
  | c :: rest => (escapes.lookup c).map fun escaped => (escaped, rest)
  | [] => none

/-- What follows a backslash at the end of a line: all blanks and ends of lines are skipped. -/
def continuation? (input : List Char) : Option (List Char) :=
  match skipBlanks input with
  | '\n' :: rest | '\r' :: '\n' :: rest =>
    some (rest.dropWhile fun c => isBlank c || c = '\n' || c = '\r')
  | _ => none

def startsLine : List Char → Option (List Char × List Char)
  | '\n' :: rest => some (['\n'], rest)
  | '\r' :: '\n' :: rest => some (['\r', '\n'], rest)
  | _ => none

/-- One step through a string of several lines or of one: what it adds to the text, and the rest
with whether the string ends before it. -/
def step (quoting : Quoting) (input : List Char) : Option (List Char × Bool × List Char) :=
  match input with
  | [] => none
  | c :: rest =>
    if c = quoting.quote then
      if quoting.isMultiline then
        let quotes := (input.takeWhile (· = quoting.quote)).length
        if quotes < 3 then some (List.replicate quotes c, false, input.drop quotes)
        else
          let last := min quotes 5
          some (List.replicate (last - 3) c, true, input.drop last)
      else some ([], true, rest)
    else if c = '\\' ∧ quoting.hasEscapes then
      match if quoting.isMultiline then continuation? rest else none with
      | some rest => some ([], false, rest)
      | none => (readEscape rest).map fun (escaped, rest) => ([escaped], false, rest)
    else
      match if quoting.isMultiline then startsLine input else none with
      | some (line, rest) => some (line, false, rest)
      | none => if isPlain c then some ([c], false, rest) else none

def readBody (quoting : Quoting) : Nat → List Char → Option (List Char × List Char)
  | 0, _ => none
  | fuel + 1, input => do
    let (part, isEnd, rest) ← quoting.step input
    if isEnd then return (part, rest)
    let (others, rest) ← readBody quoting fuel rest
    return (part ++ others, rest)

/-- The text of a string. A line end right behind the opening quotes of several lines does not
belong to it. -/
def read (quoting : Quoting) (input : List Char) : Option (String × List Char) :=
  let input :=
    if quoting.isMultiline then ((startsLine input).map Prod.snd).getD input else input
  (quoting.readBody (input.length + 1) input).map fun (text, rest) => (String.ofList text, rest)

end Quoting

def readLineString : List Char → Option (String × List Char)
  | '"' :: rest => Quoting.read ⟨true, false⟩ rest
  | '\'' :: rest => Quoting.read ⟨false, false⟩ rest
  | _ => none

def readString : List Char → Option (String × List Char)
  | '"' :: '"' :: '"' :: rest => Quoting.read ⟨true, true⟩ rest
  | '\'' :: '\'' :: '\'' :: rest => Quoting.read ⟨false, true⟩ rest
  | input => readLineString input

def isBareKey (c : Char) : Bool :=
  c.isAlphanum || c = '_' || c = '-'

def readKeyPart (input : List Char) : Option (String × List Char) :=
  match readLineString input with
  | some part => some part
  | none =>
    let bare := input.takeWhile isBareKey
    if bare.isEmpty then none else some (String.ofList bare, input.drop bare.length)

/-- The parts of a dotted key, of which there is one at least, with blanks around them. -/
def readKey : Nat → List Char → Option (List String × String × List Char)
  | 0, _ => none
  | fuel + 1, input => do
    let (part, rest) ← readKeyPart (skipBlanks input)
    match skipBlanks rest with
    | '.' :: rest => do
      let (path, key, rest) ← readKey fuel rest
      return (part :: path, key, rest)
    | rest => return ([], part, rest)

end TypedSql.Toml
