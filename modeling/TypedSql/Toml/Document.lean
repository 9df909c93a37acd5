import TypedSql.Toml.Literal
import TypedSql.Toml.Quoted

namespace TypedSql.Toml

/-- Items up to a closing bracket, with commas between them and maybe one after the last. -/
def readItems {α : Type} (read : List Char → Option (α × List Char)) (close : Char) :
    Nat → List Char → Option (List α × List Char)
  | 0, _ => none
  | fuel + 1, input => do
    let input ← skipLines false input
    if input.head? = some close then
      return ([], input.drop 1)
    let (first, rest) ← read input
    match ← skipLines false rest with
    | ',' :: rest => do
      let (others, rest) ← readItems read close fuel rest
      return (first :: others, rest)
    | c :: rest => if c = close then return ([first], rest) else none
    | [] => none

structure Definition where
  path : List String
  key : String
  value : Value

def readDefinition (readValue : List Char → Option (Value × List Char)) (input : List Char) :
    Option (Definition × List Char) := do
  let (path, key, rest) ← readKey (input.length + 1) input
  match rest with
  | '=' :: rest => do
    let (value, rest) ← readValue (skipBlanks rest)
    return (⟨path, key, value⟩, rest)
  | _ => none

def readValue : Nat → List Char → Option (Value × List Char)
  | depth + 1, '[' :: rest => do
    let (items, rest) ← readItems (readValue depth) ']' (rest.length + 1) rest
    return (.array items, rest)
  | depth + 1, '\x7b' :: rest => do
    let (definitions, rest) ←
      readItems (readDefinition (readValue depth)) '\x7d' (rest.length + 1) rest
    let entries ← definitions.foldlM
      (fun entries definition =>
        Entries.defineDotted definition.path definition.key definition.value entries)
      []
    return (.table .braces entries, rest)
  | _, input =>
    match readString input with
    | some (text, rest) => some (.string text, rest)
    | none => readLiteral input

/-- The depth to which values may be nested. -/
def maxDepth : Nat := 80

/-- The entries read so far and the header under which the next ones stand. -/
structure Progress where
  entries : Entries
  header : List String

def readHeader (progress : Progress) (brackets : Nat) (input : List Char) :
    Option (Progress × List Char) := do
  let (path, key, rest) ← readKey (input.length + 1) (input.drop brackets)
  let entries ←
    if brackets = 2 then progress.entries.openItem path key
    else progress.entries.openTable path key
  if rest.take brackets = List.replicate brackets ']' then
    return (⟨entries, path ++ [key]⟩, rest.drop brackets)
  else none

def readStatement (progress : Progress) (input : List Char) : Option (Progress × List Char) :=
  match input with
  | '[' :: '[' :: _ => readHeader progress 2 input
  | '[' :: _ => readHeader progress 1 input
  | _ => do
    let (definition, rest) ← readDefinition (readValue maxDepth) input
    let entries ← progress.entries.defineUnder progress.header definition.path definition.key
      definition.value
    return ({ progress with entries }, rest)

def readStatements : Nat → Progress → List Char → Option Entries
  | 0, _, _ => none
  | fuel + 1, progress, input =>
    if input.isEmpty then some progress.entries
    else do
      let (progress, rest) ← readStatement progress input
      readStatements fuel progress (← endLine rest)

/-- Reads a document, which may start with a byte order mark. -/
def parse? (text : String) : Option Entries := do
  let input :=
    match text.toList with
    | '\ufeff' :: rest => rest
    | input => input
  readStatements (input.length + 1) ⟨[], []⟩ (← skipLines false input)

end TypedSql.Toml
