import TypedSql.Proofs.Compilation.Run
import TypedSql.Proofs.Mapping
import TypedSql.Proofs.Parameters.Lookup
import TypedSql.Proofs.Sql.Insertion
import TypedSql.Statement.Change

namespace TypedSql

open Sql

namespace Row

variable {row : Row} {name : String} {value : Value}

theorem get?_of_mem (distinct : row.columns.Nodup) (member : (name, value) ∈ row.cells) :
    row.get? name = some value := by
  cases found : row.get? name with
  | none => exact (not_mem_columns found (List.mem_map_of_mem member)).elim
  | some other =>
    have same := List.inj_on_of_nodup_map distinct (mem_of_get? found) member rfl
    cases same
    rfl

theorem get?_eq_none (absent : name ∉ row.columns) : row.get? name = none := by
  cases found : row.get? name with
  | none => rfl
  | some value => exact (absent (List.mem_map_of_mem (mem_of_get? found))).elim

theorem getOrDefault_own {type : ColumnType} (admitted : type.admits value)
    (found : row.get? name = some value) : row.getOrDefault name type = .ok value := by
  rcases ColumnType.admits_cases admitted with ⟨rfl, default⟩ | typed
  · rw [getOrDefault_null found, default]
  · have present : value ≠ .null := by
      rintro rfl
      cases typed
    exact getOrDefault_present found present (Value.convert_own typed)

/-- The cells of a row without the columns that are skipped. -/
def without (row : Row) (skipped : List String) : Row :=
  ⟨row.cells.filter fun cell => cell.1 ∉ skipped⟩

theorem columns_without (row : Row) (skipped : List String) :
    (row.without skipped).columns = row.columns.filter (· ∉ skipped) := by
  simp [without, columns, List.filter_map, Function.comp_def]

end Row

namespace Table

/-- The entity with the default in each field that is skipped. -/
def defaulting (table : Table) (skipped : List String) (entity : Row) : Row :=
  ⟨List.zipWith (fun field cell =>
    if field.name ∈ skipped then (field.name, field.type.default) else cell) table.fields
      entity.cells⟩

theorem columns_of_holds {table : Table} {entity : Row} (held : table.Holds entity) :
    entity.columns = table.fields.map Field.name := by
  obtain ⟨cells⟩ := entity
  obtain ⟨key, name, fields⟩ := table
  unfold Holds at held
  dsimp only at held
  induction held with
  | nil => rfl
  | cons own _ ih => exact congrArg₂ List.cons own.1 ih

theorem readFields_without {row : Row} {skipped : List String} {fields : List Field}
    {cells : List (String × Value)}
    (held : List.Forall₂ (fun field cell => cell.1 = field.name ∧ field.type.admits cell.2) fields
      cells)
    (kept : ∀ cell ∈ cells, row.get? cell.1 = if cell.1 ∈ skipped then none else some cell.2) :
    readFields row fields = .ok (List.zipWith (fun field cell =>
      if field.name ∈ skipped then (field.name, field.type.default) else cell) fields cells) := by
  induction held with
  | nil => rfl
  | @cons field cell fields cells own _ ih =>
    obtain ⟨first, rest⟩ := List.forall_mem_cons.mp kept
    rw [own.1] at first
    rw [readFields, ih rest, List.zipWith_cons_cons]
    split at first
    · rename_i skipped
      rw [Row.getOrDefault_absent first, if_pos skipped]
      rfl
    · rename_i kept
      rw [Row.getOrDefault_own own.2 first, if_neg kept, ← own.1]
      rfl

/-- A row without some columns is read as the entity that has its defaults there. -/
theorem read_without {table : Table} {entity : Row} (held : table.Holds entity)
    (distinct : (table.fields.map Field.name).Nodup) (skipped : List String) :
    table.read (entity.without skipped) = .ok (table.defaulting skipped entity) := by
  have columns := entity.columns_without skipped
  rw [← columns_of_holds held] at distinct
  rw [Table.read, readFields_without held]
  · rfl
  · intro cell member
    split
    · rename_i left
      exact Row.get?_eq_none (by simp [columns, left])
    · rename_i kept
      exact Row.get?_of_mem (columns ▸ distinct.filter _)
        (List.mem_filter.mpr ⟨member, by simpa using kept⟩)

end Table

namespace Parameters

variable {parameters : Parameters}

theorem get?_of_mem (distinct : parameters.names.Nodup) {entry : Parameter}
    (member : entry ∈ parameters.entries) : parameters.get? entry.name = some entry.value := by
  obtain ⟨place, found⟩ := List.mem_iff_getElem?.mp member
  exact get?_of_getElem? distinct found

theorem mapM_get? (distinct : parameters.names.Nodup) :
    parameters.names.mapM parameters.get? = some (parameters.entries.map Parameter.value) := by
  have found : ∀ entry ∈ parameters.entries, parameters.get? entry.name = some entry.value :=
    fun entry => get?_of_mem distinct
  rw [names]
  generalize parameters.entries = entries at found
  induction entries with
  | nil => rfl
  | cons first rest ih =>
    obtain ⟨foundFirst, foundRest⟩ := List.forall_mem_cons.mp found
    rw [List.map_cons, List.mapM_cons, foundFirst, ih foundRest]
    rfl

end Parameters

namespace Compile

/-- Placeholders are written for all values, each of which is recorded under its own name. -/
theorem mapM_placeholder (cells : List (String × Value)) (before : Parameters) :
    ∃ added after,
      (cells.mapM fun (name, value) => do return [← placeholder name value] : Compile (List Sql))
          before = (.ok (added.map fun entry => [.parameter entry.name]), after) ∧
      added.map Parameter.value = cells.map Prod.snd ∧ Parameters.Extends before after added := by
  induction cells generalizing before with
  | nil => exact ⟨[], before, rfl, rfl, .refl before⟩
  | cons cell rest ih =>
    obtain ⟨added, after, written, values, extension⟩ := ih (before.allocate cell.1 cell.2).2
    refine ⟨⟨(before.allocate cell.1 cell.2).1, cell.2⟩ :: added, after, ?_, by simp [values],
      (before.allocate_extends cell.1 cell.2).trans extension⟩
    rw [List.mapM_cons]
    exact bind_ok.mpr ⟨_, _, rfl, bind_ok.mpr ⟨_, _, written, rfl⟩⟩

end Compile

namespace Insert

theorem foldl_skip (insert : Insert) (skipped : List String) :
    skipped.foldl skip insert = ⟨insert.table, insert.entity.without skipped⟩ := by
  induction skipped generalizing insert with
  | nil => simp [Row.without]
  | cons column rest ih =>
    rw [List.foldl_cons, ih]
    have kept : insert.entity.cells.filter (fun cell => cell.1 ∉ column :: rest) =
        (insert.entity.cells.filter (fun cell => cell.1 != column)).filter
          (fun cell => cell.1 ∉ rest) := by
      rw [List.filter_filter]
      refine List.filter_congr fun cell _ => ?_
      simp [bne, beq_eq_decide, Bool.and_comm]
    rw [skip, Row.without, Row.without, kept]

/-- What an insertion writes says which value goes under which column. -/
theorem sql_ok (insert : Insert) (filled : insert.entity.cells ≠ []) :
    ∃ sql insertion after, insert.sql .empty = (.ok sql, after) ∧ sql.insertion? = some insertion ∧
      insertion.table = insert.table.name ∧ insertion.columns = insert.entity.columns ∧
      insertion.placeholders.length = insert.entity.cells.length ∧
      insertion.placeholders.Nodup ∧ insertion.row? after = some insert.entity := by
  obtain ⟨added, after, written, values, extension⟩ :=
    Compile.mapM_placeholder insert.entity.cells .empty
  have entries : after.entries = added := extension.entries
  have nodup : after.names.Nodup := extension.nodup List.nodup_nil
  have count : after.names.length = insert.entity.cells.length := by
    simpa [Parameters.names, entries] using congrArg List.length values
  have named : added.map (fun entry => [Chunk.parameter entry.name]) =
      after.names.map fun name => [.parameter name] := by
    simp [Parameters.names, entries]
  have columns : insert.entity.columns ≠ [] := by simpa [Row.columns] using filled
  have names : after.names ≠ [] := by
    intro none
    rw [none] at count
    exact filled (List.eq_nil_of_length_eq_zero count.symm)
  refine ⟨_, ⟨insert.table.name, insert.entity.columns, after.names⟩, after,
    Compile.bind_ok.mpr ⟨_, _, written, rfl⟩, named ▸ insertion?_ok columns names, rfl, rfl, count,
    nodup, ?_⟩
  rw [Insertion.row?, Parameters.mapM_get? nodup, entries, values]
  exact congrArg (fun cells => some (⟨cells⟩ : Row)) (List.zip_of_prod rfl rfl).symm

theorem render_empty {insert : Insert} (empty : insert.entity.cells = []) (dialect : Dialect) :
    insert.render dialect = .error (.invalidStatement .insertWithoutColumns) := by
  rw [render, empty]
  rfl

theorem render_filled {insert : Insert} (filled : insert.entity.cells ≠ []) (dialect : Dialect)
    {sql : Sql} {after : Parameters} (written : insert.sql .empty = (.ok sql, after)) :
    insert.render dialect = .ok ⟨sql.render dialect .upper, after, dialect⟩ := by
  rw [render, if_neg (by simpa using filled), Statement.make, written]

end Insert

/-- An insertion of an entity has the columns that are not skipped, or there are none and it is
refused. Reading what it writes under them gives the entity back, with the default in each field
that is skipped. -/
theorem insert_carries {table : Table} {entity : Row} (held : table.Holds entity)
    (distinct : (table.fields.map Field.name).Nodup) (skipped : List String) (dialect : Dialect) :
    let insert := skipped.foldl Insert.skip ⟨table, entity⟩
    let remaining := (table.fields.map Field.name).filter (· ∉ skipped)
    (insert.render dialect = .error (.invalidStatement .insertWithoutColumns) ↔ remaining = []) ∧
    (remaining ≠ [] → ∃ statement sql insertion row,
      insert.render dialect = .ok statement ∧
      insert.sql .empty = (.ok sql, statement.parameters) ∧
      statement.sql = sql.render dialect .upper ∧
      sql.insertion? = some insertion ∧ insertion.table = table.name ∧
      insertion.columns = remaining ∧
      insertion.placeholders.length = remaining.length ∧ insertion.placeholders.Nodup ∧
      insertion.row? statement.parameters = some row ∧
      table.read row = .ok (table.defaulting skipped entity)) := by
  dsimp only
  rw [Insert.foldl_skip, ← Table.columns_of_holds held, ← Row.columns_without]
  have empty_iff : (entity.without skipped).columns = [] ↔ (entity.without skipped).cells = [] :=
    List.map_eq_nil_iff
  by_cases empty : (entity.without skipped).cells = []
  · have refused := @Insert.render_empty ⟨table, entity.without skipped⟩ empty dialect
    have none := empty_iff.mpr empty
    exact ⟨iff_of_true refused none, fun filled => (filled none).elim⟩
  · obtain ⟨sql, insertion, after, written, read, named, columns, count, nodup, carried⟩ :=
      Insert.sql_ok ⟨table, entity.without skipped⟩ empty
    have rendered := Insert.render_filled empty dialect written
    refine ⟨iff_of_false (by simp [rendered]) (mt empty_iff.mp empty), fun _ => ?_⟩
    refine ⟨_, sql, insertion, entity.without skipped, rendered, written, rfl, read, named, columns,
      ?_, nodup, carried, Table.read_without held distinct skipped⟩
    rw [count, Row.columns, List.length_map]

/-- Behind the identity, the column `A1` has the parameter 0 and the column `A` the parameter 10. -/
def Table.clashing : Table :=
  ⟨"clashing", "Clashing",
    ["Id", "A1", "B", "C", "D", "E", "F", "G", "H", "I", "J", "A"].map (⟨·, ⟨.int32, false⟩⟩)⟩

def Row.clashing : Row :=
  ⟨Table.clashing.fields.map fun field => (field.name, .int32 7)⟩

theorem insert_carries_clashing :
    Table.clashing.Holds .clashing ∧ ∃ statement sql insertion row,
      (Insert.skip ⟨.clashing, .clashing⟩ "Id").render .postgres = .ok statement ∧
      statement.parameters.names = ["A10", "B1", "C2", "D3", "E4", "F5", "G6", "H7", "I8", "J9",
        "A11"] ∧
      (Insert.skip ⟨.clashing, .clashing⟩ "Id").sql .empty = (.ok sql, statement.parameters) ∧
      sql.insertion? = some insertion ∧ insertion.row? statement.parameters = some row ∧
      Table.clashing.read row = .ok ⟨("Id", .int32 0) :: Row.clashing.cells.tail⟩ := by
  have held : Table.clashing.Holds .clashing := by
    simp [Table.Holds, Table.clashing, Row.clashing, ColumnType.admits, Value.fieldType?]
  have names : ((Insert.skip ⟨.clashing, .clashing⟩ "Id").sql .empty).2.names = ["A10", "B1", "C2",
      "D3", "E4", "F5", "G6", "H7", "I8", "J9", "A11"] := by decide +kernel
  obtain ⟨statement, sql, insertion, row, rendered, written, _, read, _, _, _, _, carried, back⟩ :=
    (insert_carries held (by decide) ["Id"] .postgres).2 (by decide)
  rw [show (Insert.skip ⟨.clashing, .clashing⟩ "Id").sql .empty = _ from written] at names
  exact ⟨held, statement, sql, insertion, row, rendered, names, written, read, carried, back⟩

end TypedSql
