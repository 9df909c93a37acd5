import TypedSql.Text.Pattern
import TypedSql.Text.Pattern.Brackets

namespace TypedSql.Text.Pattern

/-- What stands in a sequence: a pattern, or switches that no repetition can apply to. -/
inductive Item where
  | pattern (pattern : Pattern)
  | switches

/-- A group that is still open: its finished alternatives and its current sequence, both in
reverse, and the flags that hold again after it. -/
structure Group where
  alternatives : List Pattern
  items : List Item
  flagsAfter : Flags

namespace Group

def opened (flagsAfter : Flags) : Group :=
  ⟨[], [], flagsAfter⟩

def add (group : Group) (pattern : Pattern) : Group :=
  { group with items := .pattern pattern :: group.items }

def sequenceOf (items : List Item) : Pattern :=
  items.foldl
    (fun later item =>
      match item with
      | .pattern pattern => .sequence pattern later
      | .switches => later)
    .empty

def alternate (group : Group) : Group :=
  { group with alternatives := sequenceOf group.items :: group.alternatives, items := [] }

def closed (group : Group) : Pattern :=
  group.alternatives.foldl (fun later pattern => .either pattern later) (sequenceOf group.items)

def repeatLast? (group : Group) (least : Nat) (most : Option Nat) : Option Group :=
  match group.items with
  | .pattern pattern :: items =>
    some { group with items := .pattern (.repeated pattern least most) :: items }
  | _ => none

end Group

structure Reading where
  input : List Char
  flags : Flags
  current : Group
  outer : List Group
  names : List String

namespace Reading

def start (text : List Char) : Reading :=
  ⟨text, .initial, .opened .initial, [], []⟩

def readCount (flags : Flags) (input : List Char) : Option (Option Nat × List Char) :=
  let rec digits (read : List Char) : List Char → List Char × List Char
    | c :: rest =>
      if c.isDigit then digits (c :: read) rest
      else if flags.verbose && isBlank c && !read.isEmpty then digits read rest
      else (read.reverse, c :: rest)
    | [] => (read.reverse, [])
  let (found, rest) := digits [] (skipBlanks input)
  let rest := skipBlanks rest
  if found.isEmpty then some (none, rest)
  else
    let count := Nat.ofDigitChars 10 found 0
    if count < 0x100000000 then some (some count, rest) else none

/-- A laziness mark changes which match is found, not whether there is one. -/
def skipLazy : List Char → List Char
  | '?' :: rest => rest
  | rest => rest

def readBounds (flags : Flags) (input : List Char) :
    Option ((Nat × Option Nat) × List Char) := do
  let (least, rest) ← readCount flags (flags.skip input)
  let least ← least
  match rest with
  | '\x7d' :: rest => some ((least, some least), skipLazy rest)
  | ',' :: rest =>
    match flags.skip rest with
    | '\x7d' :: rest => some ((least, none), skipLazy rest)
    | rest => do
      let (most, rest) ← readCount flags rest
      let most ← most
      match rest with
      | '\x7d' :: rest => if most < least then none else some ((least, some most), skipLazy rest)
      | _ => none
  | _ => none

/-- The switches after a question mark, up to the colon or parenthesis that ends them. Each may be
named once, and a minus, of which there is one at most, turns off those after it. -/
def readSwitches (flags : Flags) (seen : List Char) : List Char →
    Option (Flags × Bool × Bool × List Char)
  | ':' :: rest => if seen.head? == some '-' then none else some (flags, false, !seen.isEmpty, rest)
  | ')' :: rest => if seen.head? == some '-' then none else some (flags, true, !seen.isEmpty, rest)
  | c :: rest =>
    if seen.contains c then none
    else if c == '-' then readSwitches flags (c :: seen) rest
    else do
      let flags ← flags.set? (!seen.contains '-') c
      readSwitches flags (c :: seen) rest
  | [] => none

def isNameStart (c : Char) : Bool :=
  c == '_' || Unicode.Property.alphabetic.contains c

def isNameChar (c : Char) : Bool :=
  isNameStart c || c == '.' || c == '[' || c == ']' || (Unicode.Category.group 'N').contains c

def readName (input : List Char) : Option (String × List Char) :=
  let name := input.takeWhile (· != '>')
  match name, input.drop name.length with
  | first :: others, _ :: rest =>
    if isNameStart first && others.all isNameChar then some (String.ofList name, rest) else none
  | _, _ => none

def enter (reading : Reading) (flags : Flags) (input : List Char) : Reading :=
  { reading with
    input
    flags
    current := .opened reading.flags
    outer := reading.current :: reading.outer }

/-- Groups are nested no deeper than this. -/
def depthLimit : Nat := 250

def openGroup? (reading : Reading) (input : List Char) : Option Reading :=
  let named (input : List Char) : Option Reading := do
    let (name, rest) ← readName input
    if reading.names.contains name then none
    else some { reading.enter reading.flags rest with names := name :: reading.names }
  if depthLimit ≤ reading.outer.length then none
  else
    match reading.flags.skip input with
    | '?' :: '=' :: _ | '?' :: '!' :: _ | '?' :: '<' :: '=' :: _ | '?' :: '<' :: '!' :: _ => none
    | '?' :: 'P' :: '<' :: rest => named rest
    | '?' :: '<' :: rest => named rest
    | '?' :: rest => do
      let (flags, ended, switched, rest) ← readSwitches reading.flags [] rest
      if !ended then some (reading.enter flags rest)
      else if switched then
        let items := .switches :: reading.current.items
        some { reading with input := rest, flags, current := { reading.current with items } }
      else none
    | input => some (reading.enter reading.flags input)

def closeGroup? (reading : Reading) (input : List Char) : Option Reading :=
  match reading.outer with
  | [] => none
  | parent :: outer =>
    some
      { reading with
        input
        flags := reading.current.flagsAfter
        current := parent.add reading.current.closed
        outer }

def place? (reading : Reading) (place : Place) (input : List Char) : Option Reading :=
  some { reading with input, current := reading.current.add (.assert place) }

def chars? (reading : Reading) (chars : CharClass) (input : List Char) : Option Reading :=
  some { reading with input, current := reading.current.add (.oneOf chars) }

def repeat? (reading : Reading) (least : Nat) (most : Option Nat) (input : List Char) :
    Option Reading := do
  let current ← reading.current.repeatLast? least most
  some { reading with input, current }

def point? (flags : Flags) : Option CharClass :=
  if !flags.unicode then none
  else if flags.dotMatchesAll then some (.complement .none)
  else if flags.carriageReturn then some (.complement (.ranges [(10, 10), (13, 13)] .exact))
  else some (.complement (.one '\n' .exact))

def step? (reading : Reading) (first : Char) (rest : List Char) : Option Reading :=
  let flags := reading.flags
  match first with
  | '(' => reading.openGroup? rest
  | ')' => reading.closeGroup? rest
  | '|' => some { reading with input := rest, current := reading.current.alternate }
  | '[' => do
    let (chars, rest) ← Brackets.read flags rest
    reading.chars? chars rest
  | '?' => reading.repeat? 0 (some 1) (skipLazy rest)
  | '*' => reading.repeat? 0 none (skipLazy rest)
  | '+' => reading.repeat? 1 none (skipLazy rest)
  | '\x7b' => do
    let ((least, most), rest) ← readBounds flags rest
    reading.repeat? least most rest
  | '.' => do reading.chars? (← point? flags) rest
  | '^' =>
    reading.place? (if flags.multiLine then .lineStart flags.carriageReturn else .textStart) rest
  | '$' => reading.place? (if flags.multiLine then .lineEnd flags.carriageReturn else .textEnd) rest
  | '\\' => do
    match ← Escape.read flags rest with
    | (.literal c, rest) => reading.chars? (.one c flags.folding) rest
    | (.chars chars, rest) => reading.chars? chars rest
    | (.place place, rest) => reading.place? place rest
  | c => reading.chars? (.one c flags.folding) rest

/-- Reads to the end. Every step takes a character. -/
def finish? : Nat → Reading → Option Pattern
  | 0, _ => none
  | fuel + 1, reading =>
    match reading.flags.skip reading.input with
    | [] => if reading.outer.isEmpty then some reading.current.closed else none
    | first :: rest => (reading.step? first rest).bind (finish? fuel)

end Reading

def parse? (text : String) : Option Pattern := do
  let pattern ← (Reading.start text.toList).finish? (text.length + 1)
  if pattern.weight ≤ weightLimit then some pattern else none

end TypedSql.Text.Pattern
