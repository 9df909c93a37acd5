import TypedSql.Proofs.Compilation.Clauses
import TypedSql.Proofs.Compilation.Failure
import TypedSql.Proofs.Evaluation.Refusal

namespace TypedSql

/-- What an error of compiling an expression says about it: which part is refused, or which of its
columns is of a table that the scope does not have. -/
inductive Error.PointsInto (scope : Scope) (whole : Expr) : Error → Prop where
  | unsupported {part : Expr} {reason : Unsupported} (within : whole.Contains part) :
      PointsInto scope whole (.unsupported part reason)
  | aliasNotFound {reference : ColumnRef} (listed : reference ∈ whole.columns)
      (unresolved : ∀ qualifier, scope.resolve reference.table ≠ .ok qualifier) :
      PointsInto scope whole (.aliasNotFound reference.table.name)

theorem Scope.resolve_error {scope : Scope} {table : Table} {error : Error}
    (failed : scope.resolve table = .error error) : error = .aliasNotFound table.name := by
  cases scope with
  | single own =>
    simp only [resolve] at failed
    split at failed
    · cases failed
    · exact (Except.error.inj failed).symm
  | aliased aliases =>
    have absent := Except.map_error.mp failed
    unfold Aliases.require at absent
    split at absent
    · cases absent
    · exact (Except.error.inj absent).symm

namespace Compile

variable {scope : Scope} {whole expr : Expr}

theorem lift_points {α : Type} {step : Except Error α} (inside : whole.FailsInside step) :
    FailsAs (Error.PointsInto scope whole) (liftM step : Compile α) := by
  refine FailsAs.lift (inside.weaken fun error refused => ?_)
  obtain ⟨part, reason, within, rfl⟩ := refused
  exact .unsupported within

theorem column_points {reference : ColumnRef} (listed : reference ∈ whole.columns) :
    FailsAs (Error.PointsInto scope whole) (column scope reference) := by
  have resolved : Except.Safe (Error.PointsInto scope whole) (fun _ => True)
      (scope.resolve reference.table) := by
    cases outcome : scope.resolve reference.table with
    | ok qualifier => trivial
    | error error =>
      rw [Scope.resolve_error outcome]
      exact .aliasNotFound listed (by simp [outcome])
  exact (FailsAs.lift resolved).bind fun _ => .pure _

theorem places_points {arguments : List Expr} (within : whole.Contains expr)
    (each : ∀ argument ∈ arguments, whole.Contains argument) :
    FailsAs (Error.PointsInto scope whole) (places expr arguments) := by
  cases arguments with
  | nil => exact .fail (.unsupported within)
  | cons first rest =>
    have own := (List.forall_mem_cons.mp each).1
    refine (lift_points (Expr.evaluate_failsInside first own)).bind fun value => ?_
    split
    · exact .pure _
    · exact .fail (.unsupported within)

theorem operand_points : (expr : Expr) → whole.Contains expr →
    FailsAs (Error.PointsInto scope whole) (operand scope expr)
  | .column reference, within => column_points (within.columns (by simp [Expr.columns]))
  | .call method receiver arguments, within => by
    have each : ∀ argument ∈ arguments, whole.Contains argument := fun _ listed =>
      within.operand (by simp [listed])
    have wrapped : ∀ wrap : Operand → Operand, FailsAs (Error.PointsInto scope whole)
        (if receiver.isBound = true then do return wrap (← operand scope receiver)
          else fail (.call method receiver arguments) .columnsInArguments) := by
      intro wrap
      split
      · exact (operand_points receiver (within.operand (by simp))).bind fun _ => .pure _
      · exact .fail (.unsupported within)
    simp only [operand]
    cases method with
    | apply function => exact (FailsAs.pure _).bind wrapped
    | round => exact (FailsAs.map _ (places_points within each)).bind wrapped
    | average | test kind => exact (FailsAs.fail (.unsupported within)).bind wrapped
  | .arithmetic .., within | .literal _, within | .list _, within | .compare .., within
  | .connect .., within | .not _, within => .fail (.unsupported within)

theorem argument_points (hint : Option String) (change : Value → Value)
    (within : whole.Contains expr) :
    FailsAs (Error.PointsInto scope whole) (argument scope hint change expr) := by
  unfold argument
  split
  · exact operand_points expr within
  · refine (lift_points (Expr.evaluate_failsInside expr within)).bind fun value => ?_
    split
    · exact .fail (.unsupported within)
    · exact .parameter hint (change value)

theorem compared_points (comparison : Comparison) {bound other : Expr}
    (within : whole.Contains bound) (withinOther : whole.Contains other) :
    FailsAs (Error.PointsInto scope whole) (compared scope comparison bound other) := by
  refine (operand_points bound within).bind fun left => ?_
  split
  · exact (operand_points other withinOther).bind fun right => .pure _
  · refine (lift_points (Expr.evaluate_failsInside other withinOther)).bind fun value => ?_
    split
    · split
      · exact .fail (.unsupported withinOther)
      · exact .pure _
    · exact (FailsAs.parameter _ value).bind fun right => .pure _

theorem comparison_points (written : Comparison) (negated : Bool) {left right : Expr}
    (within : whole.Contains left) (withinOther : whole.Contains right) :
    FailsAs (Error.PointsInto scope whole) (comparison scope written left right negated) := by
  unfold comparison
  by_cases bound : left.isBound = true
  · rw [if_pos bound]
    exact compared_points _ within withinOther
  · rw [if_neg bound]
    exact compared_points _ withinOther within

theorem test_points (kind : Test) (negated : Bool) {receiver : Expr} {arguments : List Expr}
    (within : whole.Contains expr) (withinReceiver : whole.Contains receiver)
    (each : ∀ argument ∈ arguments, whole.Contains argument) :
    FailsAs (Error.PointsInto scope whole)
      (test scope expr kind receiver arguments negated) := by
  unfold test
  dsimp only
  split
  · exact .fail (.unsupported within)
  · refine (argument_points _ id withinReceiver).bind fun operand => ?_
    split
    · exact .pure _
    · have withinList := each _ (List.mem_singleton_self _)
      exact (FailsAs.mapM fun item listed =>
        argument_points _ id (withinList.operand listed)).bind fun _ => .pure _
    · exact .fail (.unsupported within)
    · exact (FailsAs.mapM fun item listed => argument_points _ _ (each item listed)).bind
        fun _ => .pure _

theorem condition_points (negated : Bool) (within : whole.Contains expr) :
    FailsAs (Error.PointsInto scope whole) (condition scope expr negated) := by
  unfold condition
  split
  · have decided : whole.FailsInside expr.evaluateBool :=
      (Expr.evaluate_failsInside expr within).bind within.asBool
    exact (lift_points decided).bind fun truth => .pure _
  · split
    · split
      · exact .fail (.unsupported within)
      · have listed := within.columns (List.mem_singleton_self _)
        exact (column_points listed).bind fun left =>
          (FailsAs.parameter _ _).bind fun right => .pure _
    · exact comparison_points _ negated (within.operand (by simp)) (within.operand (by simp))
    · exact test_points _ negated within (within.operand (by simp)) fun _ listed =>
        within.operand (by simp [listed])
    all_goals exact .fail (.unsupported within)

/-- The leftmost clause to fail is a part of the whole, and so is what fails in it. -/
theorem tree_points (negated : Bool) (within : whole.Contains expr) :
    FailsAs (Error.PointsInto scope whole) (tree scope expr negated) := by
  fun_induction Expr.clauses expr negated with
  | case1 inner negated ih => exact ih (within.operand (by simp))
  | case2 connective left right negated ihLeft ihRight =>
    exact (ihLeft (within.operand (by simp))).bind fun first =>
      (ihRight (within.operand (by simp))).bind fun second => .pure _
  | case3 expr negated noNegation noConnective =>
    rw [tree.eq_3 scope expr negated noNegation noConnective]
    exact (condition_points negated within).bind fun _ => .pure _

end Compile

/-- An expression fails to compile because one of its parts is refused or one of its columns cannot
be resolved in the scope, and the error names that part or the table of that column. -/
theorem compile_error_points {expr : Expr} {scope : Scope} {before after : Parameters}
    {error : Error} (failed : expr.compile scope before = (.error error, after)) :
    error.PointsInto scope expr ∧
      ((∀ reference ∈ expr.columns, ∃ qualifier, scope.resolve reference.table = .ok qualifier) →
        ∃ part reason, expr.Contains part ∧ error = .unsupported part reason) := by
  have points : Compile.FailsAs (Error.PointsInto scope expr) (expr.compile scope) :=
    (Compile.tree_points false .self).bind fun _ => .pure _
  have named := points before
  rw [failed] at named
  refine ⟨named, fun resolved => ?_⟩
  cases named with
  | unsupported within => exact ⟨_, _, within, rfl⟩
  | aliasNotFound listed unresolved =>
    obtain ⟨qualifier, found⟩ := resolved _ listed
    exact (unresolved qualifier found).elim

/-- A comparison with a quotient that there is not, and one with a column of another table. -/
theorem compile_error_points_mixed :
    let own : Table := ⟨"shop.order", "Order", []⟩
    let zero : Expr := .literal (.int32 0)
    let quotient : Expr := .compare .equal (.column ⟨own, "Id", .int32⟩)
      (.arithmetic .div zero zero)
    let mixed : Expr := .compare .equal (.column ⟨own, "Id", .int32⟩)
      (.column ⟨⟨"shop.customer", "Customer", []⟩, "Id", .int32⟩)
    (∃ error, quotient.compile (.single own) .empty = (.error error, .empty) ∧
      ∃ part reason, quotient.Contains part ∧ error = .unsupported part reason) ∧
    ∃ error, mixed.compile (.single own) .empty = (.error error, .empty) ∧
      error.PointsInto (.single own) mixed := by
  intro own zero quotient mixed
  have failed : quotient.compile (.single own) .empty = (.error _, .empty) := rfl
  have failedMixed : mixed.compile (.single own) .empty = (.error _, .empty) := rfl
  refine ⟨⟨_, failed, (compile_error_points failed).2 ?_⟩, _, failedMixed,
    (compile_error_points failedMixed).1⟩
  intro reference listed
  rw [List.mem_singleton.mp listed]
  exact ⟨none, rfl⟩

end TypedSql
