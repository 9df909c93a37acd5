import TypedSql.Join.Building

namespace TypedSql

namespace Join

inductive Instruction where
  | add (kind : Kind) (left right : Table)
  | on (leftColumn rightColumn : String)
  | and (leftColumn rightColumn : String)
  | or (leftColumn rightColumn : String)
  | filter (condition : Expr)
  | castLeft (property column : String) (type : FieldType)
  | castRight (property column : String) (type : FieldType)
  | orderBy (table : Table) (column : String) (direction : Direction)
  | next

inductive Stage where
  | draft (draft : Draft)
  | pending (pending : Pending)
  | step (step : Step)

inductive Failure where
  | outOfPlace
  | error (error : Error)

namespace Step

def follow (step : Step) : Instruction → Except Failure Step
  | .and left right => .ok (step.and left right)
  | .or left right => .ok (step.or left right)
  | .filter condition => (step.filter condition).mapError .error
  | .castLeft property column type => .ok (step.castLeft property column type)
  | .castRight property column type => .ok (step.castRight property column type)
  | .orderBy table column direction => (step.orderBy table column direction).mapError .error
  | .add .. | .on .. | .next => .error .outOfPlace

end Step

namespace Stage

def follow (stage : Stage) (instruction : Instruction) : Except Failure Stage :=
  match stage, instruction with
  | draft state, .add kind left right => .ok (.pending (state.add kind left right))
  | pending state, .on left right => ((state.on left right).mapError .error).map .step
  | step state, .next => .ok (.draft state.next)
  | step state, instruction => (state.follow instruction).map .step
  | _, _ => .error .outOfPlace

def finish : Stage → Except Failure Join
  | step state => .ok state.finish
  | _ => .error .outOfPlace

/-- Follows instructions, counted from a number on. A failure comes with its number. -/
def run (stage : Stage) (number : Nat) : List Instruction → Except (Failure × Nat) Join
  | [] => stage.finish.mapError fun failure => (failure, number)
  | instruction :: rest => do
    let stage ← (stage.follow instruction).mapError fun failure => (failure, number)
    stage.run (number + 1) rest

end Stage

def build (output : Table) (script : List Instruction) : Except (Failure × Nat) Join :=
  (Stage.draft (start output)).run 0 script

end Join

end TypedSql
