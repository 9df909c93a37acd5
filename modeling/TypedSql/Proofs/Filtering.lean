import TypedSql.Proofs.Binding
import TypedSql.Proofs.Join.Clause

namespace TypedSql

open Predicate (Tree)

/-- A join that was built has a text unless no property is occupied or the dialect knows no search
that a filter asks for. The text has a section `WHERE` if the script has conditions. However their
filters are grouped, the section has one tree only, the conjunction of those of the filters in the
order of the script, so that a row passes it as far as it fulfils each condition. -/
theorem filters_conjoined {output : Table} {script : List Join.Instruction} {join : Join}
    (built : Join.build output script = .ok join)
    (fits : ∀ condition ∈ Join.conditions script, (condition.clauses false).Fits)
    (dialect : Dialect) :
    ((∃ error, join.render dialect = .error error) ↔
      join.projection.occupied = [] ∨
        (dialect = .sqlServer ∨ dialect = .sqlLite) ∧
          ∃ filter ∈ join.filters, ∃ condition ∈ filter.conditions, condition.isMatch = true) ∧
    List.Forall₂ (Join.Compiled join.aliases) (Join.conditions script) join.filters ∧
    ∀ statement, join.render dialect = .ok statement → ∃ sql, join.sql dialect = .ok sql ∧
      statement.sql = sql.render dialect .lower ∧
      (sql.whereSection? = none ↔ Join.conditions script = []) ∧
      ∀ own, sql.whereSection? = some own → ∃ trees tree rendered,
        List.Forall₂ (fun filter tree => filter.read? = some tree) join.filters trees ∧
        Tree.conjunction? trees = some tree ∧
        Tree.Related (Condition.Renders dialect) tree rendered ∧
        (∀ other, Sql.grammar.Derives .whole own other ↔ other = rendered) ∧
        ∀ {Rank : Type} [LinearOrder Rank] (interpretation : Interpretation Rank), ∃ truths,
          List.Forall₂ (fun condition truth => condition.truth? interpretation = some truth)
            (Join.conditions script) truths ∧
          List.Forall₂ (fun filter truth =>
              filter.truth? interpretation (.aliased join.aliases) = some truth)
            join.filters truths ∧
          tree.fold Connective.truth?
            (Condition.truth? interpretation (.aliased join.aliases)) = some (.all truths) := by
  have compiled := Join.build_filters built
  obtain ⟨sound, paired⟩ := Join.build_scoped built
  refine ⟨?_, compiled, fun statement made => ?_⟩
  · have failed : (∃ error, join.render dialect = .error error) ↔
        ∃ error, join.sql dialect = .error error := Except.exists_bind_pure_error
    have refused : (∃ error, Join.filterClause dialect join.filters = .error error) ↔
        (dialect = .sqlServer ∨ dialect = .sqlLite) ∧
          ∃ filter ∈ join.filters, ∃ condition ∈ filter.conditions, condition.isMatch = true := by
      simp only [Join.filterClause_error, Predicate.sql_error, and_left_comm, exists_and_left]
    rw [failed, Join.sql_error, Join.selection_eq_nil,
      or_iff_right (sound.base?_isSome paired)]
    exact or_congr_right refused
  · obtain ⟨sql, written, last⟩ := Except.bind_ok.mp made
    cases last
    refine ⟨sql, written, rfl, ?_⟩
    rcases Join.whereSection?_sql written compiled fits with
      ⟨none, absent⟩ | ⟨some, own, trees, tree, rendered, present, reads, whole, renders, derived⟩
    · exact ⟨iff_of_true absent none, fun own present => nomatch absent.symm.trans present⟩
    · refine ⟨iff_of_false (by simp [present]) some, fun other same => ?_⟩
      cases present.symm.trans same
      refine ⟨trees, tree, rendered, reads, whole, renders, fun other => ⟨fun another =>
        Sql.derives_unique another derived, ?_⟩, fun interpretation => ?_⟩
      · rintro rfl
        exact derived
      · obtain ⟨truths, read, held⟩ := Join.truths interpretation compiled fits
        have folded := Tree.fold_conjunction? whole (Join.trees_truth interpretation reads held)
        exact ⟨truths, read, held, folded⟩

/-- Two pairs with a filter each, the first of which is a disjunction. -/
def Join.filteredScript : List Join.Instruction :=
  [.add .inner (.aged "a") (.aged "b"), .on "Age" "Age",
    .filter (.not (.neitherOlderNorNameless (.aged "b"))), .next,
    .add .left (.aged "a") (.aged "c"), .on "Age" "Age",
    .filter (.neitherOlderNorNameless (.aged "c"))]

theorem filters_conjoined_aged :
    ∃ join sql own tree rendered, Join.build (.aged "d") Join.filteredScript = .ok join ∧
      join.sql .mySql = .ok sql ∧ sql.whereSection? = some own ∧
      Tree.Related (Condition.Renders .mySql) tree rendered ∧
      (∀ other, Sql.grammar.Derives .whole own other ↔ other = rendered) ∧
      tree.fold Connective.truth? (Condition.truth? .sevens (.aliased join.aliases)) =
        some .fails := by
  have built : ∃ join statement sql own, Join.build (.aged "d") Join.filteredScript = .ok join ∧
      join.render .mySql = .ok statement ∧ join.sql .mySql = .ok sql ∧
      sql.whereSection? = some own := ⟨_, _, _, _, rfl, rfl, rfl, rfl⟩
  obtain ⟨join, statement, sql, own, built, made, written, present⟩ := built
  obtain ⟨other, same, _, _, each⟩ :=
    (filters_conjoined built (by decide) .mySql).2.2 statement made
  cases written.symm.trans same
  obtain ⟨_, tree, rendered, _, _, renders, only, means⟩ := each own present
  obtain ⟨truths, read, _, folded⟩ := means .sevens
  obtain _ | ⟨first, _ | ⟨second, _ | _⟩⟩ := read
  cases first
  cases second
  exact ⟨join, sql, own, tree, rendered, built, written, present, renders, only, folded⟩

end TypedSql
