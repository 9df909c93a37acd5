namespace TypedSql.Toml

inductive Origin where
  /-- In braces: nothing may be added. -/
  | braces
  /-- Under a header of its own, or the whole document. -/
  | header
  /-- As a part of the name in another header. -/
  | implied
  /-- As a part of a dotted key. -/
  | dotted
  deriving DecidableEq, Repr

/-- A value of a document. Nothing is known of fractional numbers and of moments but what they
are. -/
inductive Value where
  | string (text : String)
  | integer (number : Int)
  | boolean (truth : Bool)
  | float
  | moment
  | array (items : List Value)
  /-- An array whose items are tables, each under a header of its own. -/
  | tables (items : List (List (String × Value)))
  | table (origin : Origin) (entries : List (String × Value))

abbrev Entries := List (String × Value)

namespace Entries

def put (key : String) (change : Option Value → Option Value) : Entries → Option Entries
  | [] => do return [(key, ← change none)]
  | (name, value) :: rest =>
    if name = key then do return (name, ← change (some value)) :: rest
    else do return (name, value) :: (← put key change rest)

/-- Changes the table at a path. Tables that are missing on the way are made; the last item stands
for an array of tables. A dotted key leads through no table that has its own header. -/
def within (isDotted : Bool) (change : Origin → Entries → Option Entries) :
    List String → Origin → Entries → Option Entries
  | [], origin, entries => change origin entries
  | key :: path, _, entries =>
    put key
      (fun
        | none =>
          let origin := if isDotted then .dotted else .implied
          (within isDotted change path origin []).map (.table origin)
        | some (.table origin inner) =>
          if origin = .braces ∨ (isDotted ∧ origin = .header) then none
          else (within isDotted change path origin inner).map (.table origin)
        | some (.tables items) => do
          let last ← within isDotted change path .header (← items.getLast?)
          return .tables (items.dropLast ++ [last])
        | some _ => none)
      entries

def define (key : String) (value : Value) : Entries → Option Entries :=
  put key fun
    | none => some value
    | some _ => none

/-- Defines a dotted key in a table. The table that it leads to must come from dotted keys too. -/
def defineDotted (path : List String) (key : String) (value : Value) (entries : Entries) :
    Option Entries :=
  within true
    (fun origin inner =>
      if (origin = .dotted) = (path ≠ []) then define key value inner else none)
    path .header entries

def openTable (path : List String) (key : String) : Entries → Option Entries :=
  within false
    (fun _ => put key fun
      | none => some (.table .header [])
      | some (.table .implied inner) => some (.table .header inner)
      | some _ => none)
    path .header

def openItem (path : List String) (key : String) : Entries → Option Entries :=
  within false
    (fun _ => put key fun
      | none => some (.tables [[]])
      | some (.tables items) => some (.tables (items ++ [[]]))
      | some _ => none)
    path .header

def defineUnder (header path : List String) (key : String) (value : Value) :
    Entries → Option Entries :=
  within false (fun _ inner => defineDotted path key value inner) header .header

end Entries

end TypedSql.Toml
