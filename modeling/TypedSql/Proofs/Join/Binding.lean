import TypedSql.Proofs.Join.Building
import TypedSql.Proofs.Statement.Binding

namespace TypedSql

open Sql

namespace Join

/-- The parameters are those of the filters one after another, no two of one name. -/
structure Recorded (parameters : Parameters) (filters : List Predicate) : Prop where
  entries : parameters.entries = filters.flatMap Predicate.parameters
  nodup : parameters.names.Nodup
  saturated : ∀ filter ∈ filters, ∀ condition ∈ filter.conditions, condition.isSaturated = true

def filters (join : Join) : List Predicate :=
  join.pairs.flatMap Pair.filters

/-- What is recorded belongs to the filters so far, those of an open pair at the end. -/
def Stage.Records : Stage → Prop
  | draft state => Recorded state.join.parameters state.join.filters
  | pending state => Recorded state.join.parameters state.join.filters
  | step state => Recorded state.join.parameters (state.join.filters ++ state.pair.filters)

theorem Recorded.start : Recorded .empty [] :=
  ⟨rfl, List.nodup_nil, by simp⟩

/-- A filter is recorded behind those before it. -/
theorem Recorded.compile {before after : Parameters} {filters : List Predicate} {expr : Expr}
    {scope : Scope} {predicate : Predicate} (recorded : Recorded before filters)
    (compiled : expr.compile scope before = (.ok predicate, after)) :
    Recorded after (filters ++ [predicate]) := by
  obtain ⟨extension, saturated, _⟩ := Expr.compile_parameters compiled
  refine ⟨?_, extension.nodup recorded.nodup, ?_⟩
  · simp [extension.entries, recorded.entries]
  · intro filter member
    rcases List.mem_append.mp member with earlier | last
    · exact recorded.saturated filter earlier
    · rw [List.mem_singleton.mp last]
      exact saturated

theorem Pending.on_records {pending : Pending} {left right : String} {state : Step}
    (recorded : (Stage.pending pending).Records) (linked : pending.on left right = .ok state) :
    (Stage.step state).Records := by
  obtain ⟨earlier, aliases, own, more, _, _, _, rfl⟩ := Pending.on_ok linked
  simpa [Stage.Records, filters, Pair.link] using recorded

theorem Step.filter_records {before after : Step} {condition : Expr}
    (recorded : (Stage.step before).Records) (filtered : before.filter condition = .ok after) :
    (Stage.step after).Records := by
  obtain ⟨predicate, parameters, compiled, rfl⟩ := Step.filter_ok filtered
  simpa [Stage.Records, filters, List.append_assoc] using recorded.compile compiled

theorem Step.cast_records {before : Step} (recorded : (Stage.step before).Records) (table : Table)
    (property column : String) (type : FieldType) :
    (Stage.step (before.cast table property column type)).Records := by
  obtain ⟨projection, same, _⟩ := before.cast_eq table property column type
  rw [same]
  exact recorded

theorem Step.follow_records {before after : Step} {instruction : Instruction}
    (recorded : (Stage.step before).Records) (followed : before.follow instruction = .ok after) :
    (Stage.step after).Records := by
  cases instruction with
  | and | or =>
    cases followed
    exact recorded
  | filter condition => exact before.filter_records recorded (Except.mapError_ok.mp followed)
  | castLeft property column type =>
    cases followed
    exact before.cast_records recorded _ property column type
  | castRight property column type =>
    cases followed
    exact before.cast_records recorded _ property column type
  | orderBy table column direction =>
    obtain ⟨qualifier, _, rfl⟩ := Step.orderBy_ok (Except.mapError_ok.mp followed)
    exact recorded
  | add | on | next => cases followed

/-- One instruction keeps the parameters those of the filters. -/
theorem Stage.follow_records {before after : Stage} {instruction : Instruction}
    (recorded : before.Records) (followed : before.follow instruction = .ok after) :
    after.Records := by
  unfold Stage.follow at followed
  split at followed
  · cases followed
    exact recorded
  · obtain ⟨state, linked, rfl⟩ := Except.map_ok.mp followed
    exact Pending.on_records recorded (Except.mapError_ok.mp linked)
  · cases followed
    simpa [Records, filters, Step.next] using recorded
  · obtain ⟨state, followedStep, rfl⟩ := Except.map_ok.mp followed
    exact Step.follow_records recorded followedStep
  · cases followed

theorem Stage.run_records {stage : Stage} {number : Nat} {script : List Instruction} {join : Join}
    (recorded : stage.Records) (built : stage.run number script = .ok join) :
    Recorded join.parameters join.filters := by
  induction script generalizing stage number with
  | nil =>
    cases stage with
    | draft | pending => cases built
    | step state =>
      cases built
      simpa [Records, filters, Step.finish, Step.next] using recorded
  | cons instruction rest ih =>
    obtain ⟨next, followed, built⟩ := Except.bind_ok.mp built
    exact ih (Stage.follow_records recorded (Except.mapError_ok.mp followed)) built

theorem build_records {output : Table} {script : List Instruction} {join : Join}
    (built : build output script = .ok join) : Recorded join.parameters join.filters := by
  have start : (Stage.draft (start output)).Records := Recorded.start
  exact Stage.run_records start built

variable {dialect : Dialect}

@[simp]
theorem placeholders_pair (pair : Pair) : placeholders pair.sql = [] := by
  have links : ∀ links : List Link, placeholders (links.flatMap Link.sql) = [] := by
    intro links
    induction links with
    | nil => rfl
    | cons first rest ih => simp [Link.sql, ih]
  simp [Pair.sql, aliasedTable, links]

theorem placeholders_pairs (pairs : List Pair) : placeholders (pairs.flatMap Pair.sql) = [] := by
  induction pairs with
  | nil => rfl
  | cons first rest ih => simp [ih]

theorem placeholders_selection (projection : Projection) :
    placeholders (commas (selection dialect projection)) = [] := by
  apply placeholders_commas_of_plain
  intro part member
  obtain ⟨binding, _, bound⟩ := List.mem_filterMap.mp member
  obtain ⟨source, _, rfl⟩ := Option.map_eq_some_iff.mp bound
  unfold selected
  dsimp only
  cases source.cast <;> simp

/-- Parentheses around a filter hold no placeholders. -/
theorem placeholders_parts {filters : List Predicate} {isGrouped : Bool} {parts : List Sql}
    (saturated : ∀ filter ∈ filters, ∀ condition ∈ filter.conditions, condition.isSaturated = true)
    (written : List.Forall₂ (fun filter sql => part dialect isGrouped filter = .ok sql) filters
      parts) :
    parts.flatMap placeholders = (filters.flatMap Predicate.parameters).map Parameter.name := by
  induction written with
  | nil => rfl
  | @cons first sql _ _ head _ ih =>
    obtain ⟨own, others⟩ := List.forall_mem_cons.mp saturated
    obtain ⟨inner, rendered, rfl⟩ := part_ok head
    have named := first.placeholders_sql dialect own rendered
    have kept : placeholders (if isGrouped && first.hasConnectives then parens inner else inner) =
        placeholders inner := by
      split <;> simp
    rw [List.flatMap_cons, List.flatMap_cons, List.map_append, kept, named, ih others]

theorem placeholders_filterClause {filters : List Predicate} {sql : Sql}
    (saturated : ∀ filter ∈ filters, ∀ condition ∈ filter.conditions, condition.isSaturated = true)
    (written : filterClause dialect filters = .ok sql) :
    placeholders sql = (filters.flatMap Predicate.parameters).map Parameter.name := by
  obtain ⟨parts, each, rfl⟩ := filterClause_ok written
  have named := placeholders_parts saturated (Except.mapM_ok_iff.mp each)
  cases filters with
  | nil => rfl
  | cons first rest => simpa using named

theorem placeholders_sql {join : Join} {sql : Sql}
    (saturated : ∀ filter ∈ join.filters, ∀ condition ∈ filter.conditions,
      condition.isSaturated = true)
    (written : join.sql dialect = .ok sql) :
    placeholders sql = (join.filters.flatMap Predicate.parameters).map Parameter.name := by
  obtain ⟨qualifier, table, clause, _, filtered, rfl⟩ := Join.sql_ok written
  have named : placeholders clause = _ := placeholders_filterClause saturated filtered
  simp only [placeholders_append, placeholders_cons, placeholders_selection, placeholders_pairs,
    named]
  rw [placeholders_orderBy]
  · simp [aliasedTable]
  · intro column member
    obtain ⟨⟨_, _, _⟩, _, rfl⟩ := List.mem_map.mp member
    rfl

/-- The statement of a join that was built binds what was recorded on the way. -/
theorem render_binds {output : Table} {script : List Instruction} {join : Join}
    {statement : Statement} (built : build output script = .ok join)
    (rendered : join.render dialect = .ok statement) :
    statement.parameters = join.parameters ∧
      ∃ sql, join.sql dialect = .ok sql ∧ statement.Binds dialect .lower sql := by
  have recorded := build_records built
  obtain ⟨sql, written, last⟩ := Except.bind_ok.mp rendered
  cases last
  refine ⟨rfl, sql, written, rfl, rfl, ?_, recorded.nodup⟩
  rw [placeholders_sql recorded.saturated written, ← recorded.entries]
  rfl

end Join

end TypedSql
