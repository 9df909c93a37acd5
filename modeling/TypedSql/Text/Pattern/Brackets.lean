import TypedSql.Text.Pattern.Escape

namespace TypedSql.Text.Pattern

inductive SetOperation where
  | intersection
  | difference
  | symmetricDifference

def SetOperation.apply : SetOperation → CharClass → CharClass → CharClass
  | intersection => .intersection
  | difference => .difference
  | symmetricDifference => .symmetricDifference

/-- Brackets that are still open: the characters since the last operation, and what the operation
will be applied to. -/
structure Brackets where
  negated : Bool
  left : Option (SetOperation × CharClass)
  chars : CharClass

namespace Brackets

def opened (negated : Bool) (chars : CharClass) : Brackets :=
  ⟨negated, none, chars⟩

def add (brackets : Brackets) (chars : CharClass) : Brackets :=
  { brackets with chars := .union brackets.chars chars }

/-- Operations have no precedence and are applied from the left. -/
def combined (brackets : Brackets) : CharClass :=
  match brackets.left with
  | some (operation, left) => operation.apply left brackets.chars
  | none => brackets.chars

def operate (brackets : Brackets) (operation : SetOperation) : Brackets :=
  { brackets with left := some (operation, brackets.combined), chars := .none }

def closed (brackets : Brackets) : CharClass :=
  if brackets.negated then .complement brackets.combined else brackets.combined

/-- Reads what may stand first in brackets: a caret, hyphens, and a closing bracket that is meant
as a character. Without Unicode no set may be negated, as it would hold parts of characters. -/
def readOpening (flags : Flags) (input : List Char) : Option (Brackets × List Char) :=
  let input := flags.skip input
  let negated := input.head? == some '^'
  let input := if negated then flags.skip (input.drop 1) else input
  let rec hyphens : List Char → Bool × List Char
    | '-' :: rest => (true, (hyphens rest).2)
    | rest => (false, rest)
  let (hyphen, input) := hyphens input
  let input := flags.skip input
  if negated && !flags.unicode then none
  else if hyphen then some (opened negated (.one '-' .exact), input)
  else
    match input with
    | ']' :: rest => some (opened negated (.one ']' .exact), flags.skip rest)
    | input => some (opened negated .none, input)

def readNamed (flags : Flags) : List Char → Option (CharClass × List Char)
  | ':' :: rest =>
    let negated := rest.head? == some '^'
    let rest := if negated then rest.drop 1 else rest
    let name := rest.takeWhile (· != ':')
    match rest.drop name.length with
    | ':' :: ']' :: rest =>
      (asciiNamed? (String.ofList name)).map fun codes =>
        let found : CharClass := .ranges codes flags.folding
        (if negated then .complement found else found, rest)
    | _ => none
  | _ => none

def readItem (flags : Flags) : List Char → Option (Escape × List Char)
  | [] => none
  | '\\' :: rest => Escape.read flags rest
  | c :: rest => some (.literal c, rest)

/-- A character, a range of characters or an escaped class. A hyphen makes a range unless a closing
bracket or another hyphen follows it. -/
def readRange (flags : Flags) (input : List Char) : Option (CharClass × List Char) := do
  let (first, rest) ← readItem flags input
  let rest := flags.skip rest
  let range (low high : Char) : Option CharClass :=
    if high < low || (!flags.unicode && 0x7f < high.toNat) then none
    else some (.ranges [(low.toNat, high.toNat)] flags.folding)
  let isRange :=
    match rest with
    | '-' :: after =>
      match (flags.skip after).head? with
      | some next => next != ']' && next != '-'
      | none => true
    | _ => false
  match first with
  | .place _ => none
  | .chars found => if isRange then none else some (found, rest)
  | .literal low =>
    if isRange then
      let (second, rest) ← readItem flags (flags.skip (rest.drop 1))
      match second with
      | .literal high => (range low high).map (·, rest)
      | _ => none
    else
      (range low low).map (·, rest)

/-- Reads on to the bracket that closes the outermost set. Every step takes a character. -/
def readAll (flags : Flags) : Nat → List Brackets → Brackets → List Char →
    Option (CharClass × List Char)
  | 0, _, _, _ => none
  | fuel + 1, outer, current, input =>
    match flags.skip input with
    | [] => none
    | '[' :: rest =>
      match readNamed flags rest with
      | some (found, rest) => readAll flags fuel outer (current.add found) rest
      | none => do
        let (inner, rest) ← readOpening flags rest
        readAll flags fuel (current :: outer) inner rest
    | ']' :: rest =>
      match outer with
      | [] => some (current.closed, rest)
      | parent :: outer => readAll flags fuel outer (parent.add current.closed) rest
    | '&' :: '&' :: rest => readAll flags fuel outer (current.operate .intersection) rest
    | '-' :: '-' :: rest => readAll flags fuel outer (current.operate .difference) rest
    | '~' :: '~' :: rest => readAll flags fuel outer (current.operate .symmetricDifference) rest
    | input => do
      let (found, rest) ← readRange flags input
      readAll flags fuel outer (current.add found) rest

def read (flags : Flags) (input : List Char) : Option (CharClass × List Char) := do
  let (brackets, rest) ← readOpening flags input
  readAll flags (input.length + 1) [] brackets rest

end Brackets

end TypedSql.Text.Pattern
