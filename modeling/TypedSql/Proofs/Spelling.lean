import TypedSql.Proofs.Sql.Spelling
import TypedSql.Proofs.Statement.Binding

namespace TypedSql

open Sql

theorem ConditionIn.namedAfter {scope : Scope} {expr : Expr} {negated : Bool}
    {condition : Condition} (compiled : ConditionIn scope expr negated condition)
    {parameter : Parameter} (held : parameter ∈ condition.parameters) :
    ∃ reference ∈ expr.columns, ∃ number,
      parameter.name = Parameters.numbered reference.name number := by
  have binds := compiled.binds
  generalize condition.parameters = parameters, Clause.values _ = values at held binds
  induction binds with
  | nil => cases held
  | cons first _ ih =>
    rcases List.mem_cons.mp held with rfl | later
    · exact first.2
    · exact ih later

namespace Expr

def columnNames (expr : Expr) : List String :=
  expr.columns.map ColumnRef.name

/-- The placeholders of a predicate are named after columns of its expression. -/
theorem compile_namedAfter {expr : Expr} {scope : Scope} {before after : Parameters}
    {predicate : Predicate} {dialect : Dialect} {sql : Sql}
    (compiled : expr.compile scope before = (.ok predicate, after))
    (written : predicate.sql dialect = .ok sql) : NamedAfter expr.columnNames sql := by
  obtain ⟨_, saturated, _⟩ := compile_parameters compiled
  obtain ⟨tree, rfl, related, _⟩ := compile_ok compiled
  intro name placed
  rw [Predicate.placeholders_sql dialect saturated written, Predicate.parameters,
    Predicate.conditions_nodes] at placed
  obtain ⟨parameter, recorded, rfl⟩ := List.mem_map.mp placed
  obtain ⟨condition, written, held⟩ := List.mem_flatMap.mp recorded
  obtain ⟨clause, own, compiledClause⟩ := related.exists_left written
  obtain ⟨reference, member, number, named⟩ := ConditionIn.namedAfter compiledClause held
  refine ⟨reference.name, List.mem_map_of_mem ?_, number, named⟩
  rw [← flatMap_clauses columns (fun _ => by rw [columns]) (fun _ _ _ => by rw [columns]) expr
    false]
  exact List.mem_flatMap.mpr ⟨clause, own, member⟩

end Expr

namespace Target

def boundColumns (target : Target) : List String :=
  target.filter.toList.flatMap Expr.columnNames

theorem clause_namedAfter {target : Target} {dialect : Dialect} {before after : Parameters}
    {sql : Sql} (written : target.clause dialect before = (.ok sql, after)) :
    NamedAfter target.boundColumns sql := by
  obtain ⟨table, _ | filter⟩ := target
  · obtain ⟨rfl, rfl⟩ := Compile.pure_ok.mp written
    rintro _ ⟨⟩
  · obtain ⟨predicate, middle, compiled, written⟩ := Compile.bind_ok.mp written
    obtain ⟨part, final, lifted, written⟩ := Compile.bind_ok.mp written
    obtain ⟨rendered, rfl⟩ := Compile.lift_ok.mp lifted
    obtain ⟨rfl, rfl⟩ := Compile.pure_ok.mp written
    simpa [NamedAfter, boundColumns] using Expr.compile_namedAfter compiled rendered

end Target

theorem Select.sql_namedAfter {select : Select} {dialect : Dialect} {before after : Parameters}
    {sql : Sql} (written : select.sql dialect before = (.ok sql, after)) :
    NamedAfter select.target.boundColumns sql := by
  obtain ⟨filter, first, kept⟩ := Select.clause_of_sql written
  exact (Target.clause_namedAfter first).around kept

namespace Target

variable {target : Target} {dialect : Dialect} {before after : Parameters} {sql : Sql}

theorem countSql_namedAfter (written : target.countSql dialect before = (.ok sql, after)) :
    NamedAfter target.boundColumns sql := by
  obtain ⟨filter, middle, first, last⟩ := Compile.bind_ok.mp written
  obtain ⟨rfl, rfl⟩ := Compile.pure_ok.mp last
  exact (clause_namedAfter first).around (by simp)

theorem deleteSql_namedAfter (written : target.deleteSql dialect before = (.ok sql, after)) :
    NamedAfter target.boundColumns sql := by
  obtain ⟨filter, middle, first, last⟩ := Compile.bind_ok.mp written
  obtain ⟨rfl, rfl⟩ := Compile.pure_ok.mp last
  exact (clause_namedAfter first).around (by simp)

end Target

namespace Compile

theorem placeholder_ok {column : String} {value : Value} {before after : Parameters}
    {chunk : Chunk} (recorded : placeholder column value before = (.ok chunk, after)) :
    ∃ number, chunk = .parameter (Parameters.numbered column number) := by
  cases recorded
  exact ⟨_, rfl⟩

/-- What is written for each of the items is named after the column of the item. -/
theorem namedAfter_mapM {β : Type} {column : β → String} {step : β → Compile Sql}
    (each : ∀ b before part after, step b before = (.ok part, after) →
      NamedAfter [column b] part)
    {items : List β} {before after : Parameters} {parts : List Sql}
    (written : items.mapM step before = (.ok parts, after)) :
    NamedAfter (items.map column) (commas parts) := by
  induction items generalizing before parts with
  | nil =>
    rw [List.mapM_nil] at written
    obtain ⟨rfl, rfl⟩ := pure_ok.mp written
    rintro _ ⟨⟩
  | cons first rest ih =>
    rw [List.mapM_cons] at written
    obtain ⟨part, middle, head, written⟩ := bind_ok.mp written
    obtain ⟨others, final, tail, written⟩ := bind_ok.mp written
    obtain ⟨rfl, rfl⟩ := pure_ok.mp written
    exact ((each _ _ _ _ head).append (ih tail)).around (by simp)

end Compile

theorem Update.sql_namedAfter {update : Update} {dialect : Dialect} {before after : Parameters}
    {sql : Sql} (written : update.sql dialect before = (.ok sql, after)) :
    NamedAfter (update.assignments.map Prod.fst ++ update.target.boundColumns) sql := by
  obtain ⟨assignments, middle, first, written⟩ := Compile.bind_ok.mp written
  obtain ⟨filter, final, second, last⟩ := Compile.bind_ok.mp written
  obtain ⟨rfl, rfl⟩ := Compile.pure_ok.mp last
  have assigned : NamedAfter (update.assignments.map Prod.fst) (commas assignments) := by
    refine Compile.namedAfter_mapM (fun assignment _ part _ done => ?_) first
    obtain ⟨chunk, _, recorded, done⟩ := Compile.bind_ok.mp done
    obtain ⟨number, rfl⟩ := Compile.placeholder_ok recorded
    obtain ⟨rfl, _⟩ := Compile.pure_ok.mp done
    exact fun name placed => ⟨assignment.1, by simp, number, by simpa using placed⟩
  exact (assigned.append (Target.clause_namedAfter second)).around (by simp)

theorem Insert.sql_namedAfter {insert : Insert} {before after : Parameters} {sql : Sql}
    (written : insert.sql before = (.ok sql, after)) : NamedAfter insert.entity.columns sql := by
  obtain ⟨values, middle, first, last⟩ := Compile.bind_ok.mp written
  obtain ⟨rfl, rfl⟩ := Compile.pure_ok.mp last
  have valued : NamedAfter insert.entity.columns (commas values) := by
    refine Compile.namedAfter_mapM (fun cell _ part _ done => ?_) first
    obtain ⟨chunk, _, recorded, done⟩ := Compile.bind_ok.mp done
    obtain ⟨number, rfl⟩ := Compile.placeholder_ok recorded
    obtain ⟨rfl, _⟩ := Compile.pure_ok.mp done
    exact fun name placed => ⟨cell.1, by simp, number, by simpa using placed⟩
  have columns : placeholders (commas (insert.entity.columns.map fun name =>
      [Chunk.column none name])) = [] := by
    apply placeholders_commas_of_plain
    simp
  exact valued.around (by simp [columns])

/-- The statement is written of what the step yields, and the placeholders in its text are named
after the columns and can be told from what follows them exactly where the names of the columns
allow it. -/
def Statement.Spells (statement : Statement) (dialect : Dialect) (step : Compile Sql)
    (columns : List String) : Prop :=
  ∃ sql, step .empty = (.ok sql, statement.parameters) ∧
    statement.sql = sql.render dialect .upper ∧ Sql.Spells columns dialect .upper sql

theorem Statement.make_spells {dialect : Dialect} {step : Compile Sql} {statement : Statement}
    {columns : List String}
    (named : ∀ before after sql, step before = (.ok sql, after) → NamedAfter columns sql)
    (made : Statement.make dialect step = .ok statement) :
    statement.Spells dialect step columns := by
  unfold Statement.make at made
  split at made
  · rename_i sql parameters written
    cases made
    exact ⟨sql, written, rfl, (named _ _ _ written).spells dialect .upper⟩
  · cases made

/-- A placeholder is the mark of the dialect, the name of a column and a number, as they are. In the
text of a predicate and of every statement it is read as one parameter of this name if and only if
the name of the column is made of letters, digits and underscores. -/
theorem placeholders_read_iff (dialect : Dialect) :
    (∀ (expr : Expr) (scope : Scope) (before after : Parameters) (predicate : Predicate) (sql : Sql)
        (letterCase : LetterCase), expr.compile scope before = (.ok predicate, after) →
      predicate.sql dialect = .ok sql → sql.Spells expr.columnNames dialect letterCase) ∧
    (∀ (select : Select) (statement : Statement), select.render dialect = .ok statement →
      statement.Spells dialect (select.sql dialect) select.target.boundColumns) ∧
    (∀ (target : Target) (statement : Statement), target.count dialect = .ok statement →
      statement.Spells dialect (target.countSql dialect) target.boundColumns) ∧
    (∀ (target : Target) (statement : Statement), target.delete dialect = .ok statement →
      statement.Spells dialect (target.deleteSql dialect) target.boundColumns) ∧
    (∀ (update : Update) (statement : Statement), update.render dialect = .ok statement →
      statement.Spells dialect (update.sql dialect)
        (update.assignments.map Prod.fst ++ update.target.boundColumns)) ∧
    (∀ (insert : Insert) (statement : Statement), insert.render dialect = .ok statement →
      statement.Spells dialect insert.sql insert.entity.columns) := by
  refine ⟨?_, ?_, ?_, ?_, ?_, ?_⟩
  · intro expr scope before after predicate sql letterCase compiled written
    exact (Expr.compile_namedAfter compiled written).spells dialect letterCase
  · intro select statement made
    exact Statement.make_spells (fun _ _ _ => Select.sql_namedAfter) made
  · intro target statement made
    exact Statement.make_spells (fun _ _ _ => Target.countSql_namedAfter) made
  · intro target statement made
    exact Statement.make_spells (fun _ _ _ => Target.deleteSql_namedAfter) made
  · intro update statement made
    unfold Update.render at made
    split at made
    · cases made
    · exact Statement.make_spells (fun _ _ _ => Update.sql_namedAfter) made
  · intro insert statement made
    unfold Insert.render at made
    split at made
    · cases made
    · exact Statement.make_spells (fun _ _ _ => Insert.sql_namedAfter) made

/-- An update of a column whose name holds a blank. -/
def Update.spaced : Update :=
  (Update.all ⟨"t", "T", []⟩).set "x y" (.int32 1)

def Select.spaced : Select :=
  (Select.all ⟨"t", "T", []⟩).filter
    (.compare .equal (.column ⟨⟨"t", "T", []⟩, "x y", .int32⟩) (.literal (.int32 1)))

def Insert.spaced : Insert :=
  ⟨⟨"t", "T", []⟩, ⟨[("x_y", .int32 1), ("x y", .int32 2)]⟩⟩

theorem placeholders_read_iff_spaced :
    (∃ statement, Update.spaced.render .postgres = .ok statement ∧
      statement.Spells .postgres (Update.spaced.sql .postgres) ["x y"]) ∧
    (∃ statement, Select.spaced.render .oracle = .ok statement ∧
      statement.Spells .oracle (Select.spaced.sql .oracle) ["x y"]) ∧
    (∃ statement, Insert.spaced.render .mySql = .ok statement ∧
      statement.Spells .mySql Insert.spaced.sql ["x_y", "x y"]) := by
  refine ⟨⟨_, rfl, ?_⟩, ⟨_, rfl, ?_⟩, ⟨_, rfl, ?_⟩⟩
  · exact (placeholders_read_iff .postgres).2.2.2.2.1 .spaced _ rfl
  · exact (placeholders_read_iff .oracle).2.1 .spaced _ rfl
  · exact (placeholders_read_iff .mySql).2.2.2.2.2 .spaced _ rfl

/-- The placeholder of the column `x y` is read as a parameter `x` and another word. -/
theorem placeholder_broken :
    ∃ statement, Update.spaced.render .postgres = .ok statement ∧
      statement.sql = "UPDATE \"T\" SET \"x y\" = @x y0" ∧
      statement.parameters.names = ["x y0"] ∧
      Lexeme.next? .postgres "@x y0".toList = some (.parameter "x", " y0".toList) :=
  ⟨_, rfl, by decide +kernel, by decide, by decide⟩

end TypedSql
