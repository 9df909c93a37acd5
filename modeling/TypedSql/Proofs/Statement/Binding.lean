import TypedSql.Proofs.Compilation.Values
import TypedSql.Proofs.Sql.Placeholders
import TypedSql.Statement.Change
import TypedSql.Statement.Select

namespace TypedSql

open Sql

/-- The statement is written of these chunks. Their placeholders are its parameters one after
another, no two of one name. -/
structure Statement.Binds (statement : Statement) (dialect : Dialect) (letterCase : LetterCase)
    (sql : Sql) : Prop where
  spoken : statement.dialect = dialect
  text : statement.sql = sql.render dialect letterCase
  placeholders : placeholders sql = statement.parameters.names
  nodup : statement.parameters.names.Nodup

namespace Compile

variable {α : Type}

/-- Whatever is written stands for the parameters that are recorded meanwhile. -/
def Writes (names : α → List String) (step : Compile α) : Prop :=
  ∀ before after result, step before = (.ok result, after) →
    ∃ added, Parameters.Extends before after added ∧ names result = added.map Parameter.name

/-- What is written around a part adds no placeholders of its own. -/
theorem Writes.around {names : α → List String} {step : Compile α} {write : α → Sql}
    (writes : Writes names step) (kept : ∀ a, placeholders (write a) = names a) :
    Writes placeholders (step >>= fun a => pure (write a)) := by
  intro before after result written
  obtain ⟨a, middle, first, last⟩ := bind_ok.mp written
  obtain ⟨rfl, rfl⟩ := pure_ok.mp last
  rw [kept]
  exact writes _ _ _ first

theorem Writes.mapM {β : Type} {step : β → Compile Sql} (each : ∀ b, Writes placeholders (step b))
    (items : List β) :
    Writes (List.flatMap placeholders) (items.mapM step) := by
  induction items with
  | nil =>
    intro before after result written
    rw [List.mapM_nil] at written
    obtain ⟨rfl, rfl⟩ := pure_ok.mp written
    exact ⟨[], .refl before, rfl⟩
  | cons first rest ih =>
    intro before after result written
    rw [List.mapM_cons] at written
    obtain ⟨part, middle, head, written⟩ := bind_ok.mp written
    obtain ⟨parts, final, tail, written⟩ := bind_ok.mp written
    obtain ⟨rfl, rfl⟩ := pure_ok.mp written
    obtain ⟨added, extension, named⟩ := each first _ _ _ head
    obtain ⟨more, further, namedRest⟩ := ih _ _ _ tail
    exact ⟨added ++ more, extension.trans further, by simp [named, namedRest]⟩

theorem placeholder_writes (column : String) (value : Value) :
    Writes (fun chunk => chunk.placeholder?.toList) (placeholder column value) := by
  intro before after chunk recorded
  change ((Except.ok (Chunk.parameter (before.allocate column value).1),
    (before.allocate column value).2) : Except Error Chunk × Parameters) = _ at recorded
  cases recorded
  exact ⟨_, before.allocate_extends column value, rfl⟩

end Compile

/-- What is made from no parameters on binds those that it records. -/
theorem Statement.make_binds {dialect : Dialect} {step : Compile Sql} {statement : Statement}
    (writes : Compile.Writes placeholders step)
    (made : Statement.make dialect step = .ok statement) :
    ∃ sql, step .empty = (.ok sql, statement.parameters) ∧ statement.Binds dialect .upper sql := by
  unfold Statement.make at made
  split at made
  · rename_i sql parameters written
    cases made
    obtain ⟨added, extension, named⟩ := writes _ _ _ written
    refine ⟨sql, written, rfl, rfl, ?_, extension.nodup List.nodup_nil⟩
    rw [extension.names, named]
    rfl
  · cases made

theorem placeholders_commas_of_plain {parts : List Sql}
    (plain : ∀ part ∈ parts, placeholders part = []) : placeholders (commas parts) = [] := by
  simpa using plain

theorem placeholders_orderBy {columns : List (Sql × Direction)}
    (plain : ∀ column ∈ columns, placeholders column.1 = []) :
    placeholders (Sql.orderBy columns) = [] := by
  unfold Sql.orderBy
  split
  · rfl
  · simpa [List.flatMap_map] using plain

namespace Page

variable (page : Page) (dialect : Dialect)

@[simp]
theorem placeholders_top : placeholders (page.top dialect) = [] := by
  unfold top
  split <;> simp

@[simp]
theorem placeholders_clause (isOrdered : Bool) :
    placeholders (page.clause dialect isOrdered) = [] := by
  have rows : placeholders (page.rows dialect isOrdered) = [] := by
    unfold rows
    dsimp only
    cases page.limit <;> split <;> simp
  have limitOffset : placeholders (page.limitOffset dialect) = [] := by
    unfold limitOffset
    cases page.limit <;> cases page.offset <;> cases dialect <;> simp [noLimit?]
  unfold clause
  split
  · rfl
  · cases dialect with
    | sqlServer => dsimp only; split <;> simp [rows]
    | oracle => exact rows
    | postgres | mySql | sqlLite => exact limitOffset

end Page

namespace Expr

/-- The parameters of a compiled expression are those of its conditions, in their order. -/
theorem compile_parameters {expr : Expr} {scope : Scope} {before after : Parameters}
    {predicate : Predicate} (compiled : expr.compile scope before = (.ok predicate, after)) :
    Parameters.Extends before after predicate.parameters ∧
      (∀ condition ∈ predicate.conditions, condition.isSaturated = true) ∧
      List.Forall₂ (fun clause condition => List.Forall₂ (Clause.Binds clause) clause.values
        condition.parameters) (expr.clauses false).leaves predicate.conditions := by
  obtain ⟨tree, rfl, related, extension⟩ := compile_ok compiled
  rw [Predicate.parameters, Predicate.conditions_nodes]
  refine ⟨extension, fun condition member => ?_, ?_⟩
  · obtain ⟨clause, _, compiledClause⟩ := related.exists_left member
    exact ConditionIn.isSaturated compiledClause
  · exact related.leaves.imp fun clause condition compiledClause => ConditionIn.binds compiledClause

end Expr

namespace Target

variable (target : Target) (dialect : Dialect)

theorem clause_writes : Compile.Writes placeholders (target.clause dialect) := by
  intro before after result written
  obtain ⟨table, _ | filter⟩ := target
  · obtain ⟨rfl, rfl⟩ := Compile.pure_ok.mp written
    exact ⟨[], .refl before, rfl⟩
  · obtain ⟨predicate, middle, compiled, written⟩ := Compile.bind_ok.mp written
    obtain ⟨sql, final, lifted, written⟩ := Compile.bind_ok.mp written
    obtain ⟨rendered, rfl⟩ := Compile.lift_ok.mp lifted
    obtain ⟨rfl, rfl⟩ := Compile.pure_ok.mp written
    obtain ⟨extension, saturated, _⟩ := Expr.compile_parameters compiled
    refine ⟨predicate.parameters, extension, ?_⟩
    simpa using Predicate.placeholders_sql dialect saturated rendered

theorem countSql_writes : Compile.Writes placeholders (target.countSql dialect) :=
  (target.clause_writes dialect).around fun filter => by simp

theorem deleteSql_writes : Compile.Writes placeholders (target.deleteSql dialect) :=
  (target.clause_writes dialect).around fun filter => by simp

end Target

/-- What a query adds to its filter holds no placeholders. -/
theorem Select.clause_of_sql {select : Select} {dialect : Dialect} {before after : Parameters}
    {sql : Sql} (written : select.sql dialect before = (.ok sql, after)) :
    ∃ filter, select.target.clause dialect before = (.ok filter, after) ∧
      placeholders sql = placeholders filter := by
  obtain ⟨filter, middle, first, last⟩ := Compile.bind_ok.mp written
  obtain ⟨rfl, rfl⟩ := Compile.pure_ok.mp last
  refine ⟨filter, first, ?_⟩
  have columns : placeholders (commas (select.target.table.fields.map fun field =>
      [.column none field.name])) = [] := by
    apply placeholders_commas_of_plain
    simp
  simp only [placeholders_append, placeholders_cons, columns]
  rw [placeholders_orderBy]
  · simp
  · intro column member
    obtain ⟨⟨name, direction⟩, _, rfl⟩ := List.mem_map.mp member
    rfl

theorem Select.sql_writes (select : Select) (dialect : Dialect) :
    Compile.Writes placeholders (select.sql dialect) := by
  intro before after sql written
  obtain ⟨filter, first, kept⟩ := Select.clause_of_sql written
  rw [kept]
  exact select.target.clause_writes dialect _ _ _ first

theorem Update.sql_writes (update : Update) (dialect : Dialect) :
    Compile.Writes placeholders (update.sql dialect) := by
  intro before after result written
  obtain ⟨assignments, middle, first, written⟩ := Compile.bind_ok.mp written
  obtain ⟨filter, final, second, last⟩ := Compile.bind_ok.mp written
  obtain ⟨rfl, rfl⟩ := Compile.pure_ok.mp last
  have each : ∀ assignment : String × Value, Compile.Writes placeholders (do
      return [.column none assignment.1, .mark .equal,
        ← Compile.placeholder assignment.1 assignment.2]) :=
    fun assignment =>
      (Compile.placeholder_writes assignment.1 assignment.2).around fun chunk => by simp
  obtain ⟨added, extension, named⟩ := Compile.Writes.mapM each _ _ _ _ first
  obtain ⟨more, further, namedFilter⟩ := update.target.clause_writes dialect _ _ _ second
  exact ⟨added ++ more, extension.trans further, by simp [named, namedFilter]⟩

theorem Insert.sql_writes (insert : Insert) : Compile.Writes placeholders insert.sql := by
  have each : ∀ cell : String × Value, Compile.Writes placeholders (do
      return [← Compile.placeholder cell.1 cell.2]) :=
    fun cell => (Compile.placeholder_writes cell.1 cell.2).around fun chunk => by simp
  refine (Compile.Writes.mapM each _).around fun values => ?_
  have columns : placeholders (commas (insert.entity.columns.map fun name =>
      [Chunk.column none name])) = [] := by
    apply placeholders_commas_of_plain
    simp
  simp only [placeholders_append, placeholders_cons, placeholders_parens, columns]
  simp

end TypedSql
