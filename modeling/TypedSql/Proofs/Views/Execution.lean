import TypedSql.Proofs.Except
import TypedSql.Proofs.Views.Session

namespace TypedSql

/-- What a row holds for the field is no value of its type. -/
def Field.Fails (field : Field) (row : Row) (error : Error) : Prop :=
  ∃ cell cause, row.get? field.name = some cell ∧ cell ≠ .null ∧
    cell.convert field.type.field = .error cause ∧ error = .mapping field.name cause

def Table.Fails (table : Table) (row : Row) : Error → Prop :=
  Except.FirstFails (Field.Fails · row) table.fields

theorem Row.getOrDefault_error_iff {row : Row} {field : Field} {error : Error} :
    row.getOrDefault field.name field.type = .error error ↔ field.Fails row error := by
  unfold Row.getOrDefault Field.Fails
  split
  · rename_i none
    simp [none]
  · rename_i null
    simp [null]
  · rename_i cell present found
    rw [found]
    cases converted : cell.convert field.type.field with
    | ok value => simp [mapped, Except.mapError, converted]
    | error cause =>
      have present : cell ≠ .null := by
        rintro rfl
        exact present rfl
      constructor
      · rintro ⟨⟩
        exact ⟨cell, cause, rfl, present, converted, rfl⟩
      · rintro ⟨_, _, ⟨⟩, _, again, rfl⟩
        cases converted.symm.trans again
        rfl

namespace Table

theorem readFields_eq_mapM (row : Row) (fields : List Field) :
    readFields row fields = fields.mapM fun field =>
      (row.getOrDefault field.name field.type).map (field.name, ·) := by
  induction fields with
  | nil => rfl
  | cons field rest ih =>
    rw [readFields, List.mapM_cons, ih]
    cases row.getOrDefault field.name field.type <;> rfl

theorem read_error_iff {table : Table} {row : Row} {error : Error} :
    table.read row = .error error ↔ table.Fails row error := by
  rw [read, Except.map_error, readFields_eq_mapM, Except.mapM_error_iff]
  simp only [Except.map_error, Row.getOrDefault_error_iff]
  rfl

/-- What is made of the rows of a query: an entity for each of them, in their order, or the error
of the first row that fails. -/
def Reads (table : Table) (rows : List Row) : Except Error (List Row) → Prop
  | .ok entities => List.Forall₂ (fun row entity => table.read row = .ok entity) rows entities
  | .error error => Except.FirstFails table.Fails rows error

theorem reads_iff {table : Table} {rows : List Row} {result : Except Error (List Row)} :
    table.Reads rows result ↔ rows.mapM table.read = result := by
  cases result with
  | ok entities => exact Except.mapM_ok_iff.symm
  | error error =>
    rw [Except.mapM_error_iff]
    simp only [read_error_iff]
    rfl

end Table

variable {τ : Type} {dialect : Dialect} {view : Option View} {output : Table}
  {connection : Connection τ} {transaction : Option τ} {sent sent' : List (Request τ)}
  {result result' : Except Error (List Row)}

/-- What is sent and what comes of it where a handle of the dialect has the view for an output
type. Nothing is sent before all is in order, and then one statement. -/
inductive Execution (dialect : Dialect) (view : Option View) (output : Table)
    (connection : Connection τ) (transaction : Option τ) :
    List (Request τ) → Except Error (List Row) → Prop where
  | missing (none : view = none) :
    Execution dialect view output connection transaction [] (.error (.viewNotFound output.name))
  | mismatched {stored : View} (found : view = some stored)
    (different : connection.dialect ≠ dialect) :
    Execution dialect view output connection transaction []
      (.error (.dialectMismatch output.name dialect connection.dialect))
  | unrendered {stored : View} {error : Error} (found : view = some stored)
    (spoken : connection.dialect = dialect) (failed : stored.render dialect = .error error) :
    Execution dialect view output connection transaction [] (.error error)
  | refused {stored : View} {statement : Statement} {error : Error} (found : view = some stored)
    (spoken : connection.dialect = dialect) (rendered : stored.render dialect = .ok statement)
    (answer : connection.query ⟨statement, transaction⟩ = .error error) :
    Execution dialect view output connection transaction [⟨statement, transaction⟩] (.error error)
  | answered {stored : View} {statement : Statement} {rows : List Row}
    {result : Except Error (List Row)} (found : view = some stored)
    (spoken : connection.dialect = dialect) (rendered : stored.render dialect = .ok statement)
    (answer : connection.query ⟨statement, transaction⟩ = .ok rows)
    (read : output.Reads rows result) :
    Execution dialect view output connection transaction [⟨statement, transaction⟩] result

namespace Execution

theorem unique (first : Execution dialect view output connection transaction sent result)
    (second : Execution dialect view output connection transaction sent' result') :
    sent' = sent ∧ result' = result := by
  cases first <;> cases second <;> simp_all [Table.reads_iff]

/-- A connection only has a say in what it is sent. -/
theorem congr {other : Connection τ}
    (execution : Execution dialect view output connection transaction sent result)
    (spoken : other.dialect = connection.dialect)
    (same : ∀ request ∈ sent, other.query request = connection.query request) :
    Execution dialect view output other transaction sent result := by
  cases execution with
  | missing none => exact .missing none
  | mismatched found different =>
    rw [← spoken] at different ⊢
    exact .mismatched found different
  | unrendered found spoken' failed => exact .unrendered found (spoken.trans spoken') failed
  | refused found spoken' rendered answer =>
    exact .refused found (spoken.trans spoken') rendered ((same _ (by simp)).trans answer)
  | answered found spoken' rendered answer read =>
    exact .answered found (spoken.trans spoken') rendered ((same _ (by simp)).trans answer) read

/-- A statement is only sent as it is rendered and in the transaction that it is meant for. -/
theorem rendered (execution : Execution dialect view output connection transaction sent result) :
    ∀ request ∈ sent, (∃ stored, view = some stored ∧
      stored.render dialect = .ok request.statement) ∧ request.transaction = transaction := by
  cases execution with
  | missing | mismatched | unrendered => nofun
  | refused found _ rendered | answered found _ rendered =>
    rw [List.forall_mem_singleton]
    exact ⟨⟨_, found, rendered⟩, rfl⟩

end Execution

namespace Views

variable {views : Views} {handle : Handle} {stored : View}

theorem render_missing (missing : views.view? handle output = none) :
    views.render handle output = .error (.viewNotFound output.name) := by
  simp [render, require, missing, bind, Except.bind]

theorem render_found (found : views.view? handle output = some stored) :
    views.render handle output = stored.render handle.dialect := by
  simp [render, require, found, bind, Except.bind]

theorem renderFor_missing (missing : views.view? handle output = none) (spoken : Dialect) :
    views.renderFor handle output spoken = .error (.viewNotFound output.name) := by
  simp [renderFor, require, missing, bind, Except.bind]

theorem renderFor_found (found : views.view? handle output = some stored) (spoken : Dialect) :
    views.renderFor handle output spoken =
      if spoken = handle.dialect then stored.render handle.dialect
      else .error (.dialectMismatch output.name handle.dialect spoken) := by
  simp only [renderFor, require, found, bind, Except.bind]
  by_cases same : spoken = handle.dialect
  · simp [same]
  · simp [same, throw, throwThe, MonadExceptOf.throw]

/-- What a handle does is what its view for the output type and its dialect allow. -/
theorem execute_execution (views : Views) (handle : Handle) (output : Table)
    (connection : Connection τ) (transaction : Option τ) :
    Execution handle.dialect (views.view? handle output) output connection transaction
      (views.execute handle output connection transaction).1
      (views.execute handle output connection transaction).2 := by
  unfold execute
  -- The cases come in the order of the checks, so that the first to fail settles the error.
  cases found : views.view? handle output with
  | none =>
    rw [renderFor_missing found]
    exact .missing rfl
  | some stored =>
    rw [renderFor_found found]
    by_cases spoken : connection.dialect = handle.dialect
    · rw [if_pos spoken]
      cases rendered : stored.render handle.dialect with
      | error error => exact .unrendered rfl spoken rendered
      | ok statement =>
        cases answer : connection.query ⟨statement, transaction⟩ with
        | error error =>
          have refused : fetch connection ⟨statement, transaction⟩ output = .error error := by
            rw [fetch, answer]
            rfl
          simp only [refused]
          exact .refused rfl spoken rendered answer
        | ok rows =>
          have fetched : fetch connection ⟨statement, transaction⟩ output =
              rows.mapM output.read := by
            rw [fetch, answer]
            rfl
          simp only [fetched]
          exact .answered rfl spoken rendered answer (Table.reads_iff.mpr rfl)
    · rw [if_neg spoken]
      exact .mismatched rfl spoken

end Views

/-- Executing a view changes no view, and it is all or nothing: what is sent and what comes of it
is exactly what the view for the output type and the dialects allow, a statement that is sent is the
one that rendering yields, and the connection is not asked anything else. -/
theorem Session.executes {session : Session} {number : Nat} {handle : Handle}
    (opened : session.handles[number]? = some handle) (output : Table)
    (connection : Connection τ) (transaction : Option τ) :
    ∃ sent result,
      session.step (.use number (.execute output connection transaction)) =
        some (.executed sent result, session) ∧
      (∀ sent' result', Execution handle.dialect (session.views.view? handle output) output
        connection transaction sent' result' ↔ sent' = sent ∧ result' = result) ∧
      (∀ request ∈ sent, session.step (.use number (.render output) : Command τ) =
        some (.rendered (.ok request.statement), session) ∧
          request.transaction = transaction) ∧
      ∀ other : Connection τ, other.dialect = connection.dialect →
        (∀ request ∈ sent, other.query request = connection.query request) →
        session.step (.use number (.execute output other transaction)) =
          some (.executed sent result, session) := by
  have execution := session.views.execute_execution handle output connection transaction
  refine ⟨_, _, step_execute opened, fun sent' result' => ⟨execution.unique, ?_⟩, ?_, ?_⟩
  · rintro ⟨rfl, rfl⟩
    exact execution
  · intro request member
    obtain ⟨⟨stored, found, rendered⟩, same⟩ := execution.rendered request member
    rw [step_use opened, Views.perform, Views.render_found found, rendered]
    exact ⟨rfl, same⟩
  · intro other spoken same
    obtain ⟨sameSent, sameResult⟩ := (execution.congr spoken same).unique
      (session.views.execute_execution handle output other transaction)
    rw [step_execute opened, sameSent, sameResult]

def Table.note : Table :=
  ⟨"note", "Note", [⟨"Id", ⟨.int32, false⟩⟩, ⟨"Done", ⟨.bool, false⟩⟩]⟩

def Session.noting : Session :=
  ⟨⟨[⟨[(.note, .procedure (.named "GetNotes"))]⟩]⟩, [⟨.postgres, 0⟩]⟩

/-- Of its rows the second fails, in both of its columns. -/
def Connection.noting : Connection Nat :=
  ⟨.postgres, fun _ => .ok [⟨[("Id", .int64 1)]⟩,
    ⟨[("Done", .string "no"), ("Id", .string "two")]⟩, ⟨[("Id", .null)]⟩]⟩

theorem Session.executes_noting :
    Session.noting.handles[0]? = some ⟨.postgres, 0⟩ ∧
      Session.noting.step (.use 0 (.execute .note .noting (some 7))) =
        some (.executed [⟨⟨"SELECT * FROM GetNotes()", .empty, .postgres⟩, some 7⟩]
          (.error (.mapping "Id" (.typeMismatch .int32 (some .string)))), .noting) := by
  have opened : Session.noting.handles[0]? = some ⟨.postgres, 0⟩ := rfl
  refine ⟨opened, ?_⟩
  obtain ⟨sent, result, stepped, only, _⟩ := executes opened .note .noting (some 7)
  have first : Table.note.read ⟨[("Id", .int64 1)]⟩ =
      .ok ⟨[("Id", .int32 1), ("Done", .bool false)]⟩ := rfl
  have second : Table.note.Fails ⟨[("Done", .string "no"), ("Id", .string "two")]⟩
      (.mapping "Id" (.typeMismatch .int32 (some .string))) :=
    ⟨[], ⟨"Id", ⟨.int32, false⟩⟩, _, rfl, nofun, .string "two", _, rfl, nofun, rfl, rfl⟩
  have reads : Table.note.Reads [⟨[("Id", .int64 1)]⟩,
      ⟨[("Done", .string "no"), ("Id", .string "two")]⟩, ⟨[("Id", .null)]⟩]
      (.error (.mapping "Id" (.typeMismatch .int32 (some .string)))) := by
    refine ⟨[⟨[("Id", .int64 1)]⟩], _, _, rfl, ?_, second⟩
    rw [List.forall_mem_singleton]
    intro error failed
    cases first.symm.trans (Table.read_error_iff.mpr failed)
  obtain ⟨rfl, rfl⟩ := (only _ _).mp (.answered rfl rfl rfl rfl reads)
  exact stepped

end TypedSql
