import TypedSql.Error

namespace TypedSql

structure Alias where
  code : UInt8
  deriving DecidableEq, Repr

/-- The letters `a` to `z`, then `t26`, `t27` and so on, which spell no keyword. -/
def Alias.text (qualifier : Alias) : String :=
  if qualifier.code < 26 then
    (Char.ofNat ('a'.toNat + qualifier.code.toNat)).toString
  else
    "t" ++ toString qualifier.code.toNat

def Aliases.capacity : Nat := 255

/-- The tables of a join, each aliased by its place. -/
structure Aliases where
  tables : List Table
  nodup : tables.Nodup
  length_le : tables.length ≤ Aliases.capacity

namespace Aliases

def empty : Aliases :=
  ⟨[], List.nodup_nil, Nat.zero_le _⟩

def get? (aliases : Aliases) (table : Table) : Option Alias :=
  (aliases.tables.idxOf? table).map fun place => ⟨place.toUInt8⟩

def contains (aliases : Aliases) (table : Table) : Bool :=
  (aliases.get? table).isSome

def require (aliases : Aliases) (table : Table) : Except Error Alias :=
  match aliases.get? table with
  | some qualifier => .ok qualifier
  | none => .error (.aliasNotFound table.name)

theorem not_mem_of_get?_eq_none {aliases : Aliases} {table : Table}
    (absent : aliases.get? table = none) : table ∉ aliases.tables := by
  simpa [get?, List.idxOf?_eq_none_iff] using absent

def add (aliases : Aliases) (table : Table) (absent : table ∉ aliases.tables)
    (room : aliases.tables.length < capacity) : Aliases where
  tables := aliases.tables ++ [table]
  nodup := by
    rw [List.nodup_append]
    refine ⟨aliases.nodup, by simp, ?_⟩
    rintro _ member _ new rfl
    exact absent (List.mem_singleton.mp new ▸ member)
  length_le := by simpa using Nat.succ_le_of_lt room

/-- The alias of a table, the next one if the table is new. -/
def aliasFor (aliases : Aliases) (table : Table) : Except Error (Alias × Aliases) :=
  match known : aliases.get? table with
  | some qualifier => .ok (qualifier, aliases)
  | none =>
    if room : aliases.tables.length < capacity then
      .ok (⟨aliases.tables.length.toUInt8⟩,
        aliases.add table (not_mem_of_get?_eq_none known) room)
    else
      .error (.aliasCapacityExceeded capacity)

def addAll (aliases : Aliases) : List Table → Except Error Aliases
  | [] => .ok aliases
  | table :: rest => do
    let (_, aliases) ← aliases.aliasFor table
    aliases.addAll rest

def toList (aliases : Aliases) : List (Alias × Table) :=
  aliases.tables.zipIdx.map fun (table, place) => (⟨place.toUInt8⟩, table)

end Aliases

end TypedSql
