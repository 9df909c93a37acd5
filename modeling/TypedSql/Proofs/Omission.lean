import TypedSql.Proofs.Compilation.Arity

namespace TypedSql

theorem Compile.test_refused {scope : Scope} {expr receiver : Expr} {kind : Test}
    {arguments : List Expr} {negated : Bool} {before : Parameters}
    (count : arguments.length ≠ kind.arity) :
    Compile.test scope expr kind receiver arguments negated before =
      (.error (.unsupported expr .argumentCount), before) := by
  unfold Compile.test
  rw [if_pos count]
  rfl

/-- The columns of a predicate are columns that its expression names, in their order and resolved
in the scope. Left out without an error are those in arguments beyond those that a method takes,
and no others. With a wrong number of arguments, tests of columns and roundings of columns are
refused wherever they are compiled, so that only functions of columns have surplus arguments there.
A call that is evaluated may have them as well, and has the value that it has without them. -/
theorem compile_omits_surplus (scope : Scope) :
    (∀ (expr : Expr) (before after : Parameters) (predicate : Predicate),
      expr.compile scope before = (.ok predicate, after) →
      List.Forall₂ (ColumnIn scope) expr.storedColumns predicate.columns ∧
        Interleaved expr.storedColumns expr.surplusColumns expr.namedColumns ∧
        (List.Forall₂ (ColumnIn scope) expr.namedColumns predicate.columns ↔
          expr.surplusColumns = []) ∧
        (∀ clause ∈ (expr.clauses false).leaves, ∀ kind receiver arguments,
          clause.expr = .call (.test kind) receiver arguments → clause.expr.isBound = true →
          arguments.length = kind.arity) ∧
        ∀ call ∈ expr.columnCalls,
          call.2.length = call.1.arity ∨ ∃ function, call.1 = .apply function) ∧
    (∀ (kind : Test) (receiver : Expr) (arguments : List Expr) (before : Parameters),
      (Expr.call (.test kind) receiver arguments).isBound = true →
      arguments.length ≠ kind.arity →
      (Expr.call (.test kind) receiver arguments).compile scope before =
        (.error (.unsupported (.call (.test kind) receiver arguments) .argumentCount), before)) ∧
    (∀ (receiver : Expr) (arguments : List Expr) (before : Parameters),
      arguments.length ≠ Method.round.arity →
      ∃ error, Compile.operand scope (.call .round receiver arguments) before =
          (.error error, before) ∧ (Expr.call .round receiver arguments).Refuses error) ∧
    (∀ (method : Method) (receiver : Expr) (arguments : List Expr) (value : Value),
      (Expr.call method receiver (arguments.take method.arity)).evaluate = .ok value ↔
        (Expr.call method receiver arguments).evaluate = .ok value) := by
  refine ⟨?_, ?_, fun _ _ _ => Compile.round_refused, fun _ _ _ _ => Expr.evaluate_take_arity⟩
  · intro expr before after predicate compiled
    have kept := Expr.compile_columns compiled
    have named := Expr.compile_named compiled
    refine ⟨kept, named, ⟨fun all => ?_, fun none => ?_⟩, ?_, Expr.compile_counted compiled⟩
    · have sameLength := named.length
      rw [all.length_eq, kept.length_eq] at sameLength
      exact List.length_eq_zero_iff.mp (by omega)
    · rw [none] at named
      exact named.eq_of_nil ▸ kept
    · intro clause member kind receiver arguments shape bound
      obtain ⟨tree, _, related, _⟩ := Expr.compile_ok compiled
      obtain ⟨condition, _, clauseIn⟩ := related.flip.exists_left member
      unfold ClauseIn at clauseIn
      rw [shape] at clauseIn bound
      exact clauseIn.argumentCount bound
  · intro kind receiver arguments before bound count
    refine Compile.bind_error.mpr (.inl (Compile.bind_error.mpr (.inl ?_)))
    simpa [Compile.condition, bound] using Compile.test_refused count

def Table.person : Table :=
  ⟨"person", "Person", [⟨"Name", ⟨.string, false⟩⟩, ⟨"Country", ⟨.string, false⟩⟩]⟩

/-- `Name.upper(Country) == 'X'`. -/
def Expr.upperOfTwo : Expr :=
  .compare .equal
    (.call (.apply .upper) (.column ⟨.person, "Name", .string⟩)
      [.column ⟨.person, "Country", .string⟩])
    (.literal (.string "X"))

theorem compile_omits_surplus_upper :
    ∃ predicate after,
      Expr.upperOfTwo.compile (.single .person) .empty = (.ok predicate, after) ∧
      ¬ List.Forall₂ (ColumnIn (.single .person)) Expr.upperOfTwo.namedColumns
        predicate.columns := by
  refine ⟨_, _, rfl, fun all => ?_⟩
  have none := ((compile_omits_surplus (.single .person)).1 .upperOfTwo .empty _ _
    rfl).2.2.1.mp all
  cases none

/-- The second argument is in no condition. -/
theorem second_argument_omitted :
    ∃ predicate after,
      Expr.upperOfTwo.compile (.single .person) .empty = (.ok predicate, after) ∧
      Expr.upperOfTwo.namedColumns.map ColumnRef.name = ["Name", "Country"] ∧
      predicate.columns.map QualifiedColumn.name = ["Name"] :=
  ⟨_, _, rfl, rfl, rfl⟩

end TypedSql
