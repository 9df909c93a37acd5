import TypedSql.Join.Script
import TypedSql.Proofs.Except

namespace TypedSql.Join

open Sql

/-- A link opens a pair of an earlier table and a new one. The first pair may bring in both. -/
theorem Pending.on_ok {pending : Pending} {left right : String} {state : Step}
    (linked : pending.on left right = .ok state) :
    ∃ earlier aliases own more,
      (pending.join.pairs.isEmpty = true ∧
          pending.join.aliases.aliasFor pending.left = .ok (earlier, aliases) ∨
        ¬pending.join.pairs.isEmpty = true ∧
          pending.join.aliases.require pending.left = .ok earlier ∧
          aliases = pending.join.aliases) ∧
      ¬aliases.contains pending.right = true ∧
      aliases.aliasFor pending.right = .ok (own, more) ∧
      state = ⟨{ pending.join with aliases := more },
        (⟨pending.kind, earlier, own, pending.right, [], []⟩ : Pair).link .on left right,
        pending.left, pending.right⟩ := by
  unfold Pending.on at linked
  dsimp only at linked
  split at linked
  · rename_i first
    obtain ⟨⟨earlier, aliases⟩, given, linked⟩ := Except.bind_ok.mp linked
    dsimp only at linked
    split at linked
    · cases linked
    · rename_i absent
      obtain ⟨⟨own, more⟩, givenRight, last⟩ := Except.bind_ok.mp linked
      cases last
      exact ⟨earlier, aliases, own, more, .inl ⟨first, given⟩, absent, givenRight, rfl⟩
  · rename_i later
    obtain ⟨⟨earlier, aliases⟩, given, linked⟩ := Except.bind_ok.mp linked
    obtain ⟨known, required, same⟩ := Except.map_ok.mp given
    cases same
    dsimp only at linked
    split at linked
    · cases linked
    · rename_i absent
      obtain ⟨⟨own, more⟩, givenRight, last⟩ := Except.bind_ok.mp linked
      cases last
      exact ⟨earlier, _, own, more, .inr ⟨later, required, rfl⟩, absent, givenRight, rfl⟩

namespace Step

theorem filter_ok {before after : Step} {condition : Expr}
    (filtered : before.filter condition = .ok after) :
    ∃ predicate parameters,
      condition.compile (.aliased before.join.aliases) before.join.parameters =
        (.ok predicate, parameters) ∧
      after = { before with
        join := { before.join with parameters }
        pair := { before.pair with filters := before.pair.filters ++ [predicate] } } := by
  unfold Step.filter at filtered
  generalize compiled : condition.compile (.aliased before.join.aliases) before.join.parameters =
    outcome at filtered
  obtain ⟨result, parameters⟩ := outcome
  obtain ⟨predicate, rfl, last⟩ := Except.bind_ok.mp filtered
  cases last
  exact ⟨predicate, parameters, rfl, rfl⟩

/-- A cast changes at most the projection, by a claim. -/
theorem cast_eq (step : Step) (table : Table) (property column : String) (type : FieldType) :
    ∃ projection, step.cast table property column type =
        { step with join := { step.join with projection } } ∧
      (projection = step.join.projection ∨ ∃ qualifier won,
        step.join.aliases.get? table = some qualifier ∧
        step.join.projection.claim property qualifier column type = .ok (won, projection)) := by
  unfold Step.cast
  split
  · exact ⟨_, rfl, .inl rfl⟩
  · rename_i qualifier known
    split
    · rename_i won projection claim
      exact ⟨projection, rfl, .inr ⟨qualifier, won, known, claim⟩⟩
    · exact ⟨_, rfl, .inl rfl⟩

theorem orderBy_ok {before after : Step} {table : Table} {column : String} {direction : Direction}
    (ordered : before.orderBy table column direction = .ok after) :
    ∃ qualifier, before.join.aliases.require table = .ok qualifier ∧
      after = { before with
        join := { before.join with
          order := before.join.order ++ [(qualifier, column, direction)] } } := by
  obtain ⟨qualifier, required, last⟩ := Except.bind_ok.mp ordered
  cases last
  exact ⟨qualifier, required, rfl⟩

end Step

/-- What is written of one filter. Among others it stands in parentheses if it has connectives. -/
def part (dialect : Dialect) (isGrouped : Bool) (filter : Predicate) : Except Error Sql := do
  let sql ← filter.sql dialect
  return if isGrouped && filter.hasConnectives then parens sql else sql

section

variable {dialect : Dialect} {isGrouped : Bool} {filter : Predicate} {filters : List Predicate}

theorem part_ok {sql : Sql} (written : part dialect isGrouped filter = .ok sql) :
    ∃ inner, filter.sql dialect = .ok inner ∧
      sql = if isGrouped && filter.hasConnectives then parens inner else inner := by
  obtain ⟨inner, rendered, last⟩ := Except.bind_ok.mp written
  cases last
  exact ⟨inner, rendered, rfl⟩

theorem part_error :
    (∃ error, part dialect isGrouped filter = .error error) ↔
      ∃ error, filter.sql dialect = .error error :=
  Except.exists_bind_pure_error

theorem filterClause_ok {clause : Sql} (filtered : filterClause dialect filters = .ok clause) :
    ∃ parts, filters.mapM (part dialect (filters.length > 1)) = .ok parts ∧
      clause = if filters.isEmpty then [] else .keyword .WHERE :: join (.keyword .AND) parts := by
  obtain ⟨parts, written, last⟩ := Except.bind_ok.mp filtered
  cases last
  exact ⟨parts, written, rfl⟩

theorem filterClause_error :
    (∃ error, filterClause dialect filters = .error error) ↔
      ∃ filter ∈ filters, ∃ error, filter.sql dialect = .error error := by
  have parts : (∃ error, filterClause dialect filters = .error error) ↔
      ∃ error, filters.mapM (part dialect (filters.length > 1)) = .error error :=
    Except.exists_bind_pure_error
  simp only [parts, Except.exists_mapM_error, part_error]

end

variable {join : Join} {dialect : Dialect}

theorem sql_ok {sql : Sql} (written : join.sql dialect = .ok sql) :
    ∃ qualifier table clause, join.base? = some (qualifier, table) ∧
      filterClause dialect (join.pairs.flatMap Pair.filters) = .ok clause ∧
      sql = .keyword .SELECT :: commas (selection dialect join.projection) ++
        .keyword .FROM :: aliasedTable qualifier table ++ join.pairs.flatMap Pair.sql ++ clause ++
        orderBy (join.order.map fun (qualifier, column, direction) =>
          ([.column (some qualifier) column], direction)) := by
  unfold Join.sql at written
  split at written
  · cases written
  · rename_i qualifier table base
    dsimp only at written
    split at written
    · cases written
    · obtain ⟨clause, filtered, last⟩ := Except.bind_ok.mp written
      cases last
      exact ⟨qualifier, table, clause, base, filtered, rfl⟩

/-- A join without tables, without properties or with a filter that has no text has none itself. -/
theorem sql_error :
    (∃ error, join.sql dialect = .error error) ↔
      join.base? = none ∨ selection dialect join.projection = [] ∨
        ∃ error, filterClause dialect (join.pairs.flatMap Pair.filters) = .error error := by
  unfold Join.sql
  split
  · rename_i none
    exact ⟨fun _ => .inl none, fun _ => ⟨_, rfl⟩⟩
  · rename_i qualifier table base
    dsimp only
    split
    · rename_i empty
      exact ⟨fun _ => .inr (.inl (List.isEmpty_iff.mp empty)), fun _ => ⟨_, rfl⟩⟩
    · rename_i filled
      have occupied : selection dialect join.projection ≠ [] := by simpa using filled
      refine Except.exists_bind_pure_error.trans ?_
      rw [or_iff_right (by simp [base]), or_iff_right occupied]

end TypedSql.Join
