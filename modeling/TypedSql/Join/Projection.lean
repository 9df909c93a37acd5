import TypedSql.Alias

namespace TypedSql

namespace Projection

/-- The column that a property is read from, cast to the type of the property or not. -/
structure Source where
  qualifier : Alias
  column : String
  type : FieldType
  cast : Option FieldType
  deriving DecidableEq

structure Binding where
  property : String
  target : FieldType
  source : Option Source
  deriving DecidableEq

namespace Binding

def isOccupied (binding : Binding) : Bool :=
  binding.source.isSome

def claim (binding : Binding) (qualifier : Alias) (column : String) (type : FieldType) :
    Except Error Binding :=
  if type = binding.target then
    .ok { binding with source := some ⟨qualifier, column, type, none⟩ }
  else if type.canCast binding.target then
    .ok { binding with source := some ⟨qualifier, column, type, some binding.target⟩ }
  else
    .error (.illegalCast binding.property type binding.target)

/-- The first table with a field of the name and the type of the property. -/
def match? (binding : Binding) (tables : List (Alias × Table)) : Option Source :=
  tables.findSome? fun (qualifier, table) =>
    (table.field? binding.property binding.target).map fun field =>
      ⟨qualifier, field.name, field.type.field, none⟩

def autoBind (binding : Binding) (tables : List (Alias × Table)) : Binding :=
  if binding.isOccupied then binding
  else { binding with source := binding.match? tables }

end Binding

/-- Binds the first property of a name to a column. None if there is no such property or it is
occupied. -/
def claimIn (property : String) (qualifier : Alias) (column : String) (type : FieldType) :
    List Binding → Except Error (Option (List Binding))
  | [] => .ok none
  | binding :: rest =>
    if binding.property = property then
      if binding.isOccupied then .ok none
      else (binding.claim qualifier column type).map fun bound => some (bound :: rest)
    else
      (claimIn property qualifier column type rest).map fun bindings =>
        bindings.map fun bindings => binding :: bindings

end Projection

structure Projection where
  bindings : List Projection.Binding

namespace Projection

def ofTable (output : Table) : Projection :=
  ⟨output.fields.map fun field => ⟨field.name, field.type.field, none⟩⟩

/-- Binds a property to a column. The first claim of a property wins: whether this one did comes
with the projection. -/
def claim (projection : Projection) (property : String) (qualifier : Alias) (column : String)
    (type : FieldType) : Except Error (Bool × Projection) := do
  match ← claimIn property qualifier column type projection.bindings with
  | some bindings => return (true, ⟨bindings⟩)
  | none => return (false, projection)

def autoBind (projection : Projection) (aliases : Aliases) : Projection :=
  ⟨projection.bindings.map (·.autoBind aliases.toList)⟩

def get? (projection : Projection) (property : String) : Option Binding :=
  projection.bindings.find? (·.property == property)

def occupied (projection : Projection) : List Binding :=
  projection.bindings.filter Binding.isOccupied

end Projection

end TypedSql
