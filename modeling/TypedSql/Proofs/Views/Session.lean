import TypedSql.Settings
import TypedSql.Views.Execution

namespace TypedSql

/-- What a handle can be asked to do. -/
inductive Operation (τ : Type) where
  | storeJoin (join : Join)
  | storeProcedure (output : Table) (procedure : Procedure)
  | remove (output : Table)
  | contains (output : Table)
  | definition (output : Table)
  | count
  | isEmpty
  | render (output : Table)
  | execute (output : Table) (connection : Connection τ) (transaction : Option τ)

/-- A step of a session. Handles go by the order that they are opened in. -/
inductive Command (τ : Type) where
  | create (dialect : Dialect)
  | configure (settings : Settings)
  | clone (handle : Nat)
  | use (handle : Nat) (operation : Operation τ)

inductive Answer (τ : Type) where
  | opened (dialect : Dialect)
  | view (view : Option View)
  | flag (value : Bool)
  | count (number : Nat)
  | rendered (result : Except Error Statement)
  | executed (sent : List (Request τ)) (result : Except Error (List Row))

variable {τ : Type}

def Views.perform (views : Views) (handle : Handle) : Operation τ → Answer τ × Views
  | .storeJoin join => (views.putJoin handle join).map .view id
  | .storeProcedure output procedure =>
    (views.put handle output (.procedure procedure)).map .view id
  | .remove output => (views.remove handle output).map .view id
  | .contains output => (.flag (views.contains handle output), views)
  | .definition output => (.view (views.view? handle output), views)
  | .count => (.count (views.size handle), views)
  | .isEmpty => (.flag (views.size handle == 0), views)
  | .render output => (.rendered (views.render handle output), views)
  | .execute output connection transaction =>
    let (sent, result) := views.execute handle output connection transaction
    (.executed sent result, views)

structure Session where
  views : Views
  handles : List Handle

namespace Session

def start : Session :=
  ⟨.empty, []⟩

def found (session : Session) (dialect : Dialect) : Session :=
  let (handle, views) := session.views.create dialect
  ⟨views, session.handles ++ [handle]⟩

/-- No step is taken with a handle that is not open. -/
def step (session : Session) : Command τ → Option (Answer τ × Session)
  | .create dialect => some (.opened dialect, session.found dialect)
  | .configure settings => some (.opened settings.dialect, session.found settings.dialect)
  | .clone number => do
    let handle ← session.handles[number]?
    return (.opened handle.dialect, { session with handles := session.handles ++ [handle] })
  | .use number operation => do
    let handle ← session.handles[number]?
    let (answer, views) := session.views.perform handle operation
    return (answer, { session with views })

def run : Session → List (Command τ) → Option (List (Answer τ) × Session)
  | session, [] => some ([], session)
  | session, command :: rest => do
    let (answer, next) ← session.step command
    let (answers, last) ← next.run rest
    return (answer :: answers, last)

def performed (session : Session) (handle : Handle) (operation : Operation τ) : Session :=
  { session with views := (session.views.perform handle operation).2 }

theorem step_use {session : Session} {number : Nat} {handle : Handle}
    (opened : session.handles[number]? = some handle) (operation : Operation τ) :
    session.step (.use number operation) =
      some ((session.views.perform handle operation).1, session.performed handle operation) := by
  simp [step, opened, performed]

theorem step_clone {session : Session} {number : Nat} {handle : Handle}
    (opened : session.handles[number]? = some handle) :
    session.step (.clone number : Command τ) =
      some (.opened handle.dialect, { session with handles := session.handles ++ [handle] }) := by
  simp [step, opened]

theorem step_execute {session : Session} {number : Nat} {handle : Handle}
    (opened : session.handles[number]? = some handle) {output : Table}
    {connection : Connection τ} {transaction : Option τ} :
    session.step (.use number (.execute output connection transaction)) =
      some (.executed (session.views.execute handle output connection transaction).1
        (session.views.execute handle output connection transaction).2, session) :=
  step_use opened _

theorem step_use_cases {session next : Session} {number : Nat} {operation : Operation τ}
    {answer : Answer τ} (stepped : session.step (.use number operation) = some (answer, next)) :
    ∃ handle, session.handles[number]? = some handle ∧
      answer = (session.views.perform handle operation).1 ∧
      next = session.performed handle operation := by
  cases opened : session.handles[number]? with
  | none => simp [step, opened] at stepped
  | some handle =>
    cases (step_use opened operation).symm.trans stepped
    exact ⟨handle, rfl, rfl, rfl⟩

theorem step_clone_cases {session next : Session} {number : Nat} {answer : Answer τ}
    (stepped : session.step (.clone number) = some (answer, next)) :
    ∃ handle, session.handles[number]? = some handle ∧ answer = .opened handle.dialect ∧
      next = { session with handles := session.handles ++ [handle] } := by
  cases opened : session.handles[number]? with
  | none => simp [step, opened] at stepped
  | some handle =>
    cases (step_clone opened).symm.trans stepped
    exact ⟨handle, rfl, rfl, rfl⟩

end Session

namespace Command

/-- The command does not name a handle beyond those that are open. -/
def Names (handles : Nat) : Command τ → Prop
  | .create _ | .configure _ => True
  | .clone handle | .use handle _ => handle < handles

theorem Names.mono {command : Command τ} {handles more : Nat} (names : command.Names handles)
    (atLeast : handles ≤ more) : command.Names more := by
  cases command with
  | create | configure => trivial
  | clone | use => exact Nat.lt_of_lt_of_le names atLeast

def opens : Command τ → Nat
  | .create _ | .configure _ | .clone _ => 1
  | .use _ _ => 0

end Command

/-- Each command only names handles that are open by then. -/
def Grounded : Nat → List (Command τ) → Prop
  | _, [] => True
  | handles, command :: rest => command.Names handles ∧ Grounded (handles + command.opens) rest

namespace Session

variable {session next : Session} {command : Command τ} {answer : Answer τ}

theorem step_of_names (names : command.Names session.handles.length) :
    ∃ answer next, session.step command = some (answer, next) := by
  cases command with
  | create | configure => exact ⟨_, _, rfl⟩
  | clone number => exact ⟨_, _, step_clone (List.getElem?_eq_getElem names)⟩
  | use number operation => exact ⟨_, _, step_use (List.getElem?_eq_getElem names) operation⟩

theorem names_of_step (stepped : session.step command = some (answer, next)) :
    command.Names session.handles.length := by
  cases command with
  | create | configure => trivial
  | clone number =>
    obtain ⟨handle, opened, _⟩ := step_clone_cases stepped
    exact (List.getElem?_eq_some_iff.mp opened).1
  | use number operation =>
    obtain ⟨handle, opened, _⟩ := step_use_cases stepped
    exact (List.getElem?_eq_some_iff.mp opened).1

theorem step_handles (stepped : session.step command = some (answer, next)) :
    ∃ added, next.handles = session.handles ++ added ∧ added.length = command.opens := by
  cases command with
  | create | configure =>
    cases stepped
    exact ⟨_, rfl, rfl⟩
  | clone number =>
    obtain ⟨handle, _, -, rfl⟩ := step_clone_cases stepped
    exact ⟨[handle], rfl, rfl⟩
  | use number operation =>
    obtain ⟨handle, _, -, rfl⟩ := step_use_cases stepped
    exact ⟨[], (List.append_nil _).symm, rfl⟩

end Session

end TypedSql
