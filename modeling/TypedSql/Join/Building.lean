import TypedSql.Join

namespace TypedSql

namespace Join

structure Draft where
  join : Join

/-- A join to which a table is being added that has no link yet. -/
structure Pending where
  join : Join
  kind : Kind
  left : Table
  right : Table

/-- A join whose last pair is still open: it may get more links and filters. -/
structure Step where
  join : Join
  pair : Pair
  left : Table
  right : Table

def start (output : Table) : Draft :=
  ⟨⟨output, .empty, [], .ofTable output, .empty, []⟩⟩

def Draft.add (draft : Draft) (kind : Kind) (left right : Table) : Pending :=
  ⟨draft.join, kind, left, right⟩

/-- Links the table to the earlier one. The first pair brings in both of its tables, a later one
only its right table, which must be new. -/
def Pending.on (pending : Pending) (leftColumn rightColumn : String) : Except Error Step := do
  let join := pending.join
  let (left, aliases) ←
    if join.pairs.isEmpty then join.aliases.aliasFor pending.left
    else (join.aliases.require pending.left).map fun qualifier => (qualifier, join.aliases)
  if aliases.contains pending.right then
    throw (.invalidStatement .tableAlreadyJoined)
  let (right, aliases) ← aliases.aliasFor pending.right
  let pair : Pair := ⟨pending.kind, left, right, pending.right, [], []⟩
  return ⟨{ join with aliases }, pair.link .on leftColumn rightColumn, pending.left, pending.right⟩

namespace Step

def and (step : Step) (leftColumn rightColumn : String) : Step :=
  { step with pair := step.pair.link .and leftColumn rightColumn }

def or (step : Step) (leftColumn rightColumn : String) : Step :=
  { step with pair := step.pair.link .or leftColumn rightColumn }

def filter (step : Step) (condition : Expr) : Except Error Step := do
  let (predicate, parameters) := condition.compile (.aliased step.join.aliases) step.join.parameters
  let predicate ← predicate
  return { step with
    join := { step.join with parameters }
    pair := { step.pair with filters := step.pair.filters ++ [predicate] } }

/-- Claims a property for a column of a table. A claim that fails changes nothing. -/
def cast (step : Step) (table : Table) (property column : String) (type : FieldType) : Step :=
  match step.join.aliases.get? table with
  | none => step
  | some qualifier =>
    match step.join.projection.claim property qualifier column type with
    | .ok (_, projection) => { step with join := { step.join with projection } }
    | .error _ => step

def castLeft (step : Step) : String → String → FieldType → Step :=
  step.cast step.left

def castRight (step : Step) : String → String → FieldType → Step :=
  step.cast step.right

def orderBy (step : Step) (table : Table) (column : String) (direction : Direction) :
    Except Error Step := do
  let qualifier ← step.join.aliases.require table
  return { step with
    join := { step.join with order := step.join.order ++ [(qualifier, column, direction)] } }

def next (step : Step) : Draft :=
  ⟨{ step.join with pairs := step.join.pairs ++ [step.pair] }⟩

/-- Closes the pair and binds every property that is still free. -/
def finish (step : Step) : Join :=
  let join := step.next.join
  { join with projection := join.projection.autoBind join.aliases }

end Step

end Join

end TypedSql
