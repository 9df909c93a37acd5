import TypedSql.Proofs.Noninterference.Compilation

namespace TypedSql

/-- The values that are bound to parameters have no influence on anything else. Expressions that
differ in them alone are accepted or refused together, and then there are the same nodes, the same
names of parameters and the same text. -/
theorem compile_hides_values {first second : Expr} (alike : Alike false first second)
    (scope : Scope) (before : Parameters) :
    ((∃ predicate after, first.compile scope before = (.ok predicate, after)) ↔
      ∃ predicate after, second.compile scope before = (.ok predicate, after)) ∧
    ∀ predicate after other afterOther,
      first.compile scope before = (.ok predicate, after) →
      second.compile scope before = (.ok other, afterOther) →
      predicate.nodes.map Predicate.Node.masked = other.nodes.map Predicate.Node.masked ∧
        after.names = afterOther.names ∧ after.counter = afterOther.counter ∧
        ∀ dialect letterCase,
          (predicate.sql dialect).map (fun sql => sql.render dialect letterCase) =
            (other.sql dialect).map fun sql => sql.render dialect letterCase := by
  have named := Parameters.NamedAlike.refl before
  refine ⟨⟨?_, ?_⟩, ?_⟩
  · rintro ⟨predicate, after, compiled⟩
    obtain ⟨other, afterOther, compiledOther, _⟩ := Expr.compile_follows alike named compiled
    exact ⟨other, afterOther, compiledOther⟩
  · rintro ⟨predicate, after, compiled⟩
    obtain ⟨other, afterOther, compiledOther, _⟩ := Expr.compile_follows alike.symm named compiled
    exact ⟨other, afterOther, compiledOther⟩
  · intro predicate after other afterOther compiled compiledOther
    obtain ⟨_, _, compiledAgain, same, namedAfter⟩ := Expr.compile_follows alike named compiled
    cases compiledOther.symm.trans compiledAgain
    refine ⟨congrArg Predicate.nodes same, namedAfter.names, namedAfter.counter, ?_⟩
    intro dialect letterCase
    rw [← predicate.sql_masked dialect, ← other.sql_masked dialect, same]

/-- A condition with a number beside a column, and the same with a text that looks like SQL. -/
theorem compile_hides_values_text :
    ∃ predicate after other afterOther,
      (Expr.compare .less (.literal (.int32 9)) (.column ⟨⟨"", "", []⟩, "Age", .int32⟩)).compile
        (.single ⟨"", "", []⟩) .empty = (.ok predicate, after) ∧
      (Expr.compare .less (.literal (.string "0 OR 1 = 1"))
        (.column ⟨⟨"", "", []⟩, "Age", .int32⟩)).compile (.single ⟨"", "", []⟩) .empty =
          (.ok other, afterOther) ∧
      ∀ dialect letterCase, (predicate.sql dialect).map (fun sql => sql.render dialect letterCase) =
        (other.sql dialect).map fun sql => sql.render dialect letterCase := by
  have alike : Alike false
      (.compare .less (.literal (.int32 9)) (.column ⟨⟨"", "", []⟩, "Age", .int32⟩))
      (.compare .less (.literal (.string "0 OR 1 = 1"))
        (.column ⟨⟨"", "", []⟩, "Age", .int32⟩)) :=
    .compare (.given ⟨rfl, _, rfl, rfl⟩ ⟨rfl, _, rfl, rfl⟩) (.column _)
  refine ⟨_, _, _, _, rfl, rfl, ?_⟩
  obtain ⟨_, _, _, texts⟩ :=
    (compile_hides_values alike (.single ⟨"", "", []⟩) .empty).2 _ _ _ _ rfl rfl
  exact texts

end TypedSql
