import TypedSql.Text.Pattern.Place

namespace TypedSql.Text.Pattern

structure Flags where
  ignoreCase : Bool
  multiLine : Bool
  dotMatchesAll : Bool
  swapGreed : Bool
  unicode : Bool
  carriageReturn : Bool
  verbose : Bool

namespace Flags

def initial : Flags := ⟨false, false, false, false, true, false, false⟩

def folding (flags : Flags) : Folding :=
  if flags.ignoreCase then (if flags.unicode then .unicode else .ascii) else .exact

def set? (flags : Flags) (on : Bool) : Char → Option Flags
  | 'i' => some { flags with ignoreCase := on }
  | 'm' => some { flags with multiLine := on }
  | 's' => some { flags with dotMatchesAll := on }
  | 'U' => some { flags with swapGreed := on }
  | 'u' => some { flags with unicode := on }
  | 'R' => some { flags with carriageReturn := on }
  | 'x' => some { flags with verbose := on }
  | _ => none

end Flags

/-- In a verbose pattern blanks are skipped, and so is all from a hash to the end of the line. -/
def skipComment : Bool → List Char → List Char
  | _, [] => []
  | true, c :: rest => skipComment (c != '\n') rest
  | false, c :: rest =>
    if isBlank c then skipComment false rest
    else if c == '#' then skipComment true rest
    else c :: rest

def Flags.skip (flags : Flags) (input : List Char) : List Char :=
  if flags.verbose then skipComment false input else input

inductive Escape where
  | literal (c : Char)
  | chars (chars : CharClass)
  | place (place : Place)

namespace Escape

def charOfCode? (code : Nat) : Option Char :=
  if code.isValidChar then some (Char.ofNat code) else none

/-- A code point in braces, or in exactly `width` digits. A byte beyond ASCII is no character when
Unicode is off. -/
def readHex (flags : Flags) (width : Nat) (input : List Char) : Option (Char × List Char) :=
  match flags.skip input with
  | '\x7b' :: rest =>
    let digits := rest.takeWhile (· != '\x7d')
    match rest.drop digits.length with
    | _ :: rest =>
      if digits.isEmpty || digits.length > 8 then none
      else do
        let code ← hexNumber? digits
        (charOfCode? code).map (·, rest)
    | [] => none
  | input =>
    let digits := input.take width
    if digits.length < width then none
    else do
      let c ← charOfCode? (← hexNumber? digits)
      if width = 2 ∧ !flags.unicode ∧ 0x7f < c.toNat then none
      else some (c, input.drop width)

/-- Splits a property from its value at the first sign that separates them: `!=` negates. -/
def splitProperty (text : List Char) : Option (Bool × List Char × List Char) :=
  let rec find (before : List Char) : List Char → Option (Bool × List Char × List Char)
    | '!' :: '=' :: rest => some (true, before.reverse, rest)
    | c :: rest => find (c :: before) rest
    | [] => none
  let splitAt (mark : Char) : Option (Bool × List Char × List Char) :=
    let name := text.takeWhile (· != mark)
    match text.drop name.length with
    | _ :: value => some (false, name, value)
    | [] => none
  find [] text <|> splitAt ':' <|> splitAt '='

def readProperty (flags : Flags) (negated : Bool) (input : List Char) :
    Option (CharClass × List Char) := do
  let finish (negated : Bool) (found : CharClass) : CharClass :=
    let folded := found.fold flags.folding
    if negated then .complement folded else folded
  if !flags.unicode then none
  else
    match flags.skip input with
    | [] => none
    | '\x7b' :: rest =>
      let body := rest.takeWhile (· != '\x7d')
      match rest.drop body.length with
      | _ :: rest =>
        match splitProperty body with
        | some (differs, name, value) =>
          (propertyValue? name value).map fun found => (finish (negated != differs) found, rest)
        | none => (property? body).map fun found => (finish negated found, rest)
      | [] => none
    | '\\' :: _ => none
    | c :: rest => (property? [c]).map fun found => (finish negated found, rest)

/-- The special word boundaries, whose names stand in braces. Anything but a letter or a hyphen
after the brace leaves it to be read as a repetition. -/
def readBoundary (flags : Flags) (input : List Char) : Option (Place × List Char) :=
  let plain : Place := .wordBoundary flags.unicode
  match input with
  | '\x7b' :: rest =>
    let isNameChar (c : Char) : Bool := c.isAlpha || c == '-'
    match flags.skip rest with
    | [] => none
    | first :: rest =>
      if isNameChar first then
        let name := (first :: rest).takeWhile isNameChar
        match (first :: rest).drop name.length with
        | '\x7d' :: rest =>
          match String.ofList name with
          | "start" => some (.wordStart flags.unicode, rest)
          | "end" => some (.wordEnd flags.unicode, rest)
          | "start-half" => some (.wordStartHalf flags.unicode, rest)
          | "end-half" => some (.wordEndHalf flags.unicode, rest)
          | _ => none
        | _ => none
      else
        some (plain, input)
  | _ => some (plain, input)

/-- Reads what follows a backslash. Letters and digits that mean nothing are refused, all other
ASCII characters stand for themselves. -/
def read (flags : Flags) : List Char → Option (Escape × List Char)
  | [] => none
  | c :: rest =>
    let literal (c : Char) : Option (Escape × List Char) := some (.literal c, rest)
    let letter (c : Char) (negated : Bool) : Option (Escape × List Char) :=
      if negated && !flags.unicode then none
      else
        (namedByLetter? flags.unicode c).map fun codes =>
          let found : CharClass := .ranges codes .exact
          (.chars (if negated then .complement found else found), rest)
    match c with
    | 'x' => (readHex flags 2 rest).map fun (c, rest) => (.literal c, rest)
    | 'u' => (readHex flags 4 rest).map fun (c, rest) => (.literal c, rest)
    | 'U' => (readHex flags 8 rest).map fun (c, rest) => (.literal c, rest)
    | 'p' => (readProperty flags false rest).map fun (found, rest) => (.chars found, rest)
    | 'P' => (readProperty flags true rest).map fun (found, rest) => (.chars found, rest)
    | 'd' | 's' | 'w' => letter c false
    | 'D' | 'S' | 'W' => letter c.toLower true
    | 'a' => literal '\x07'
    | 'f' => literal '\x0c'
    | 't' => literal '\t'
    | 'n' => literal '\n'
    | 'r' => literal '\r'
    | 'v' => literal '\x0b'
    | 'A' => some (.place .textStart, rest)
    | 'z' => some (.place .textEnd, rest)
    | 'b' => (readBoundary flags rest).map fun (found, rest) => (.place found, rest)
    | 'B' => some (.place (.notWordBoundary flags.unicode), rest)
    | '<' => some (.place (.wordStart flags.unicode), rest)
    | '>' => some (.place (.wordEnd flags.unicode), rest)
    | c => if c.toNat < 128 && !c.isAlphanum then literal c else none

end Escape

end TypedSql.Text.Pattern
