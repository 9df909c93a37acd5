import TypedSql.Value

namespace TypedSql

structure Parameter where
  name : String
  value : Value

/-- The parameters of a statement in the order in which they were recorded. The counter numbers the
parameters of all columns, so that those of two predicates of one statement never clash. -/
structure Parameters where
  entries : List Parameter
  counter : Nat

namespace Parameters

def empty : Parameters :=
  ⟨[], 0⟩

def names (parameters : Parameters) : List String :=
  parameters.entries.map Parameter.name

def contains (parameters : Parameters) (name : String) : Bool :=
  parameters.names.contains name

def get? (parameters : Parameters) (name : String) : Option Value :=
  (parameters.entries.find? (·.name == name)).map Parameter.value

def numbered (column : String) (number : Nat) : String :=
  column ++ toString number

/-- The first number from `number` on that makes a name of the column that is not taken. A column
`A1` numbered 0 takes the name of a column `A` numbered 10. -/
def freeNumber (taken : List String) (column : String) (number : Nat) : Nat → Nat
  | 0 => number
  | attempts + 1 =>
    if taken.contains (numbered column number) then
      freeNumber taken column (number + 1) attempts
    else
      number

/-- Records a value under a fresh name made of a column. One more attempt than there are names
finds a number that is free. -/
def allocate (parameters : Parameters) (column : String) (value : Value) : String × Parameters :=
  let taken := parameters.names
  let number := freeNumber taken column parameters.counter taken.length
  let name := numbered column number
  (name, ⟨parameters.entries ++ [⟨name, value⟩], number + 1⟩)

/-- Records a value under exactly this name, in place of an earlier one. -/
def bind (parameters : Parameters) (name : String) (value : Value) : Parameters :=
  if parameters.contains name then
    { parameters with
      entries := parameters.entries.map fun entry =>
        if entry.name == name then ⟨name, value⟩ else entry }
  else
    { parameters with entries := parameters.entries ++ [⟨name, value⟩] }

end Parameters

end TypedSql
