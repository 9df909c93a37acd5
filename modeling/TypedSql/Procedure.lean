import TypedSql.Statement

namespace TypedSql

/-- A call of a stored procedure. Its parameters keep the names they are given. -/
structure Procedure where
  name : String
  parameters : Parameters

namespace Procedure

def named (name : String) : Procedure :=
  ⟨name, .empty⟩

def bind (procedure : Procedure) (name : String) (value : Value) : Procedure :=
  { procedure with parameters := procedure.parameters.bind name value }

def arguments (procedure : Procedure) (dialect : Dialect) : String :=
  ", ".intercalate (procedure.parameters.names.map dialect.placeholder)

def text (procedure : Procedure) (dialect : Dialect) : Except Error String :=
  let name := procedure.name
  let arguments := procedure.arguments dialect
  match dialect with
  | .sqlServer =>
    .ok (if arguments.isEmpty then "EXEC " ++ name else "EXEC " ++ name ++ " " ++ arguments)
  | .mySql => .ok ("CALL " ++ name ++ "(" ++ arguments ++ ")")
  | .postgres => .ok ("SELECT * FROM " ++ name ++ "(" ++ arguments ++ ")")
  | .oracle => .ok ("SELECT * FROM TABLE(" ++ name ++ "(" ++ arguments ++ "))")
  | .sqlLite => .error (.dialectUnsupported "stored procedure" dialect)

def render (procedure : Procedure) (dialect : Dialect) : Except Error Statement := do
  return ⟨← procedure.text dialect, procedure.parameters, dialect⟩

end Procedure

end TypedSql
