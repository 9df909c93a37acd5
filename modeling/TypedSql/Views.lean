import TypedSql.Join
import TypedSql.Procedure
import TypedSql.Row

namespace TypedSql

inductive View where
  | join (join : Join)
  | procedure (procedure : Procedure)

def View.render (view : View) (dialect : Dialect) : Except Error Statement :=
  match view with
  | join definition => definition.render dialect
  | procedure definition => definition.render dialect

/-- The views of output types, at most one for each. -/
structure Store where
  entries : List (Table × View)

namespace Store

def empty : Store :=
  ⟨[]⟩

def get? (store : Store) (output : Table) : Option View :=
  store.entries.lookup output

def remove (store : Store) (output : Table) : Store :=
  ⟨store.entries.filter fun (table, _) => table ≠ output⟩

def insert (store : Store) (output : Table) (view : View) : Store :=
  ⟨(output, view) :: (store.remove output).entries⟩

def size (store : Store) : Nat :=
  store.entries.length

end Store

/-- A use of one of several stores. Handles with the same store share its views. -/
structure Handle where
  dialect : Dialect
  store : Nat
  deriving DecidableEq, Repr

structure Views where
  stores : List Store

namespace Views

def empty : Views :=
  ⟨[]⟩

def create (views : Views) (dialect : Dialect) : Handle × Views :=
  (⟨dialect, views.stores.length⟩, ⟨views.stores ++ [.empty]⟩)

def store (views : Views) (handle : Handle) : Store :=
  views.stores[handle.store]?.getD .empty

def view? (views : Views) (handle : Handle) (output : Table) : Option View :=
  (views.store handle).get? output

def contains (views : Views) (handle : Handle) (output : Table) : Bool :=
  (views.view? handle output).isSome

def size (views : Views) (handle : Handle) : Nat :=
  (views.store handle).size

/-- Stores a view and yields the one that it replaces. -/
def put (views : Views) (handle : Handle) (output : Table) (view : View) :
    Option View × Views :=
  (views.view? handle output,
    ⟨views.stores.modify handle.store (·.insert output view)⟩)

def putJoin (views : Views) (handle : Handle) (join : Join) : Option View × Views :=
  views.put handle join.output (.join join)

def remove (views : Views) (handle : Handle) (output : Table) : Option View × Views :=
  (views.view? handle output, ⟨views.stores.modify handle.store (·.remove output)⟩)

def require (views : Views) (handle : Handle) (output : Table) : Except Error View :=
  match views.view? handle output with
  | some view => .ok view
  | none => .error (.viewNotFound output.name)

def render (views : Views) (handle : Handle) (output : Table) : Except Error Statement := do
  (← views.require handle output).render handle.dialect

/-- The statement of a view for a connection, which must speak the dialect of the handle. -/
def renderFor (views : Views) (handle : Handle) (output : Table) (connection : Dialect) :
    Except Error Statement := do
  let view ← views.require handle output
  if connection ≠ handle.dialect then
    throw (.dialectMismatch output.name handle.dialect connection)
  view.render handle.dialect

end Views

end TypedSql
