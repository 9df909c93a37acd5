import TypedSql.Views

namespace TypedSql

/-- A statement on its way to a database, in a transaction or in none. -/
structure Request (τ : Type) where
  statement : Statement
  transaction : Option τ

structure Connection (τ : Type) where
  dialect : Dialect
  query : Request τ → Except Error (List Row)

namespace Views

variable {τ : Type}

def fetch (connection : Connection τ) (request : Request τ) (output : Table) :
    Except Error (List Row) := do
  (← connection.query request).mapM output.read

/-- Sends the statement of a view. Yields the requests that reach the connection, one or none, and
the rows. -/
def execute (views : Views) (handle : Handle) (output : Table) (connection : Connection τ)
    (transaction : Option τ) : List (Request τ) × Except Error (List Row) :=
  match views.renderFor handle output connection.dialect with
  | .error error => ([], .error error)
  | .ok statement =>
    let request := ⟨statement, transaction⟩
    ([request], fetch connection request output)

end Views

end TypedSql
