import TypedSql.Proofs.Compilation.Failure
import TypedSql.Proofs.Compilation.Operand
import TypedSql.Proofs.Typing.Filters

namespace TypedSql

namespace Compile

variable {α β : Type}

/-- A step that fails only by refusing an expression. -/
def Safe (step : Compile α) : Prop :=
  ∀ before, Except.Safe Error.IsRefusal (fun _ => True) (step before).1

namespace Safe

theorem pure (a : α) : Safe (Pure.pure a : Compile α) :=
  fun _ => trivial

theorem fail {expr : Expr} {reason : Unsupported} (refused : Refused expr reason) :
    Safe (fail expr reason : Compile α) :=
  fun _ => ⟨expr, reason, rfl, refused⟩

theorem lift {step : Except Error α} {post : α → Prop}
    (safe : Except.Safe Error.IsRefusal post step) : Safe (liftM step : Compile α) :=
  FailsAs.lift safe

theorem parameter (column : Option String) (value : Value) : Safe (parameter column value) :=
  FailsAs.parameter column value

theorem bind {step : Compile α} {next : α → Compile β} (first : Safe step)
    (last : ∀ a, Safe (next a)) : Safe (step >>= next) :=
  FailsAs.bind first last

theorem mapM {step : α → Compile β} {items : List α} (each : ∀ a ∈ items, Safe (step a)) :
    Safe (items.mapM step) :=
  FailsAs.mapM each

theorem column {table : Table} {name : String} {type : FieldType} :
    Safe (column (.single table) ⟨table, name, type⟩) := by
  have resolved : Except.Safe Error.IsRefusal (fun _ => True)
      ((Scope.single table).resolve table) := by
    rw [Scope.resolve, if_pos rfl]
    trivial
  exact (lift resolved).bind fun qualifier => pure _

/-- What is wrapped around an operand with columns is no cause of failure. -/
theorem wrapped {scope : Scope} {expr receiver : Expr} {reason : Unsupported}
    (bound : receiver.isBound = true) (inner : Safe (operand scope receiver))
    (wrap : Operand → Operand) :
    Safe (if receiver.isBound = true then do return wrap (← operand scope receiver)
      else Compile.fail expr reason) := by
  rw [if_pos bound]
  exact inner.bind fun operand => pure (wrap operand)

end Safe

end Compile

namespace Scalar

variable {table : Table} {type : ColumnType}

theorem operand_safe (scalar : Scalar table type) (bound : scalar.expr.isBound = true) :
    Compile.Safe (Compile.operand (.single table) scalar.expr) := by
  induction scalar with
  | column name => exact .column
  | literal value admitted => cases bound
  | apply function argument accepted ih =>
    have boundArgument : argument.expr.isBound = true := by
      simpa [expr, Expr.isBound, Expr.anyBound] using bound
    rw [expr, Compile.operand]
    exact (Compile.Safe.pure _).bind (.wrapped boundArgument (ih boundArgument))
  | round argument places numeric ih =>
    have boundArgument : argument.expr.isBound = true := by
      simpa [expr, Expr.isBound, Expr.anyBound] using bound
    rw [expr, Compile.operand]
    have counted : Compile.Safe (Operand.round <$> Compile.places
        (.call .round argument.expr [.literal (.int32 places)]) [.literal (.int32 places)]) :=
      fun _ => trivial
    exact counted.bind (.wrapped boundArgument (ih boundArgument))
  | arithmetic operator left right numeric => exact .fail .arithmeticOverColumns
  | average values =>
    rw [expr, Expr.isBound, Expr.isBound, Expr.anyBound_literals] at bound
    cases bound

/-- As the receiver or the argument of a test a scalar is no value only if it is null. -/
theorem argument_safe (scalar : Scalar table type) (hint : Option String)
    (change : Value → Value) :
    Compile.Safe (Compile.argument (.single table) hint change scalar.expr) := by
  unfold Compile.argument
  split
  · rename_i bound
    exact scalar.operand_safe bound
  · rename_i free
    refine (Compile.Safe.lift (scalar.evaluate_safe (by simpa using free))).bind fun value => ?_
    split
    · exact .fail .nullArgument
    · exact .parameter hint (change value)

end Scalar

namespace Compile

variable {table : Table} {type other : ColumnType}

theorem compared_safe (comparison : Comparison) {first : Scalar table type} {second : Expr}
    (bound : first.expr.isBound = true)
    (operand : second.isBound = true → Safe (operand (.single table) second))
    (evaluated : second.isBound = false →
      Except.Safe Error.IsRefusal (Value.Fits type.field) second.evaluate) :
    Safe (compared (.single table) comparison first.expr second) := by
  refine (first.operand_safe bound).bind fun left => ?_
  split
  · rename_i boundSecond
    exact (operand boundSecond).bind fun right => .pure _
  · rename_i free
    refine (Safe.lift (evaluated (by simpa using free))).bind fun value => ?_
    split
    · split
      · exact .fail .orderingWithNull
      · exact .pure _
    · exact (Safe.parameter _ value).bind fun right => .pure _

theorem comparison_safe (written : Comparison) (left right : Scalar table type) (negated : Bool)
    (bound : left.expr.isBound = true ∨ right.expr.isBound = true) :
    Safe (comparison (.single table) written left.expr right.expr negated) := by
  unfold comparison
  by_cases first : left.expr.isBound = true
  · rw [if_pos first]
    exact compared_safe _ first right.operand_safe right.evaluate_safe
  · rw [if_neg first]
    exact compared_safe _ (bound.resolve_left first) left.operand_safe left.evaluate_safe

theorem test_safe (expr : Expr) {kind : Test} (receiver : Scalar table type)
    (arguments : List (Scalar table other)) (negated : Bool) (noList : kind ≠ .isIn)
    (arity : arguments.length = kind.arity) :
    Safe (test (.single table) expr kind receiver.expr (arguments.map Scalar.expr) negated) := by
  unfold test
  dsimp only
  rw [if_neg (by simpa using arity)]
  refine (receiver.argument_safe _ id).bind fun operand => ?_
  have each : ∀ item ∈ arguments.map Scalar.expr, Safe (argument (.single table)
      (expr.firstColumn?.map ColumnRef.name) kind.patternValue item) := by
    intro item member
    obtain ⟨scalar, _, rfl⟩ := List.mem_map.mp member
    exact scalar.argument_safe _ _
  split
  · exact (noList rfl).elim
  · exact (noList rfl).elim
  · exact (noList rfl).elim
  · exact (Safe.mapM each).bind fun operands => .pure _

end Compile

namespace Filter

variable {table : Table}

/-- What a single filter with columns compiles to depends on its operands alone. -/
theorem bound_safe (filter : Filter table) (single : filter.IsSingle) (negated : Bool)
    (bound : filter.expr.isBound = true) :
    Compile.Safe (Compile.condition (.single table) filter.expr negated) := by
  unfold Compile.condition
  rw [bound]
  simp only [Bool.not_true, Bool.false_eq_true, if_false]
  cases filter with
  | compare comparison left right =>
    exact Compile.comparison_safe comparison left right negated
      (by simpa [expr, Expr.isBound] using bound)
  | isNull scalar | isNotNull scalar =>
    have boundScalar : scalar.expr.isBound = true := by simpa [expr, Expr.isBound] using bound
    dsimp only [expr]
    unfold Compile.comparison
    rw [if_pos boundScalar]
    exact Compile.compared_safe _ boundScalar (fun claimed => absurd claimed Bool.false_ne_true)
      fun _ => .inl rfl
  | between scalar low high =>
    exact Compile.test_safe _ scalar [low, high] negated (by decide) rfl
  | isIn scalar items =>
    have each : ∀ item ∈ items.map Scalar.expr, Compile.Safe (Compile.argument (.single table)
        ((isIn scalar items).expr.firstColumn?.map ColumnRef.name) id item) := by
      intro item member
      obtain ⟨own, _, rfl⟩ := List.mem_map.mp member
      exact own.argument_safe _ _
    dsimp only [expr]
    unfold Compile.test
    refine (scalar.argument_safe _ id).bind fun operand => ?_
    cases items with
    | nil => exact .pure _
    | cons first rest => exact (Compile.Safe.mapM each).bind fun operands => .pure _
  | search kind scalar textual part =>
    obtain ⟨⟨_, noList⟩, _, arity⟩ := kind.test_single
    exact Compile.test_safe _ scalar [part] negated noList arity.symm
  | matchesPattern scalar textual pattern =>
    exact Compile.test_safe _ scalar [.text pattern] negated (by decide) rfl
  | sequence kind scalar moment temporal =>
    obtain ⟨⟨_, noList⟩, arity⟩ := kind.test_single
    exact Compile.test_safe _ scalar [moment] negated noList arity.symm
  | isTrue column =>
    exact Compile.Safe.column.bind fun operand =>
      (Compile.Safe.parameter _ _).bind fun added => .pure _
  | connect | not => exact single.elim

theorem condition_safe (filter : Filter table) (single : filter.IsSingle) (negated : Bool) :
    Compile.Safe (Compile.condition (.single table) filter.expr negated) := by
  by_cases bound : filter.expr.isBound = true
  · exact filter.bound_safe single negated bound
  · unfold Compile.condition
    have free : filter.expr.isBound = false := by simpa using bound
    rw [free]
    have evaluated := Expr.evaluateBool_safe (filter.evaluate_safe single free)
    exact (Compile.Safe.lift evaluated).bind fun truth => .pure _

theorem single_safe (filter : Filter table) (single : filter.IsSingle) (negated : Bool) :
    Compile.Safe (Compile.tree (.single table) filter.expr negated) := by
  have leaf : Compile.tree (.single table) filter.expr negated =
      do return .leaf (← Compile.condition (.single table) filter.expr negated) := by
    cases filter with
    | connect | not => exact single.elim
    | _ => rfl
  rw [leaf]
  exact (filter.condition_safe single negated).bind fun _ => .pure _

theorem tree_safe (filter : Filter table) (negated : Bool) :
    Compile.Safe (Compile.tree (.single table) filter.expr negated) := by
  induction filter generalizing negated with
  | connect connective left right ihLeft ihRight =>
    exact (ihLeft negated).bind fun first => (ihRight negated).bind fun second => .pure _
  | not inner ih => exact ih !negated
  | _ =>
    apply single_safe
    trivial

theorem compile_safe (filter : Filter table) :
    Compile.Safe (filter.expr.compile (.single table)) :=
  (filter.tree_safe false).bind fun _ => .pure _

end Filter

/-- What the types let pass is sound. A scalar without columns has a value of its type or none, a
filter compiles in the scope of its table, and where one of them does not, an expression is refused
for a reason that types cannot exclude. -/
theorem typed_sound (table : Table) :
    (∀ (type : ColumnType) (scalar : Scalar table type), scalar.expr.columns = [] →
      (∀ value, scalar.expr.evaluate = .ok value →
        value = .null ∨ value.fieldType? = some type.field) ∧
      ∀ error, scalar.expr.evaluate = .error error →
        ∃ expr reason, error = .unsupported expr reason ∧ Refused expr reason) ∧
    ∀ (filter : Filter table) (before after : Parameters) (error : Error),
      filter.expr.compile (.single table) before = (.error error, after) →
      ∃ expr reason, error = .unsupported expr reason ∧ Refused expr reason := by
  constructor
  · intro type scalar noColumns
    have free : scalar.expr.isBound = false := by
      by_contra bound
      exact (Expr.isBound_iff scalar.expr).mp (by simpa using bound) noColumns
    have safe := scalar.evaluate_safe free
    constructor
    · intro value evaluated
      rw [evaluated] at safe
      exact safe
    · intro error failed
      rw [failed] at safe
      exact safe
  · intro filter before after error failed
    have safe := filter.compile_safe before
    rw [failed] at safe
    exact safe

/-- A literal, a division by zero, and a comparison with a sum over a column. -/
theorem typed_sound_zero :
    (∃ (scalar : Scalar ⟨"", "", []⟩ ⟨.int32, false⟩) (value : Value),
      scalar.expr.columns = [] ∧ scalar.expr.evaluate = .ok value ∧
        (value = .null ∨ value.fieldType? = some .int32)) ∧
    (∃ (scalar : Scalar ⟨"", "", []⟩ ⟨.int32, false⟩) (error : Error),
      scalar.expr.columns = [] ∧ scalar.expr.evaluate = .error error ∧
        ∃ expr reason, error = .unsupported expr reason ∧ Refused expr reason) ∧
    ∃ (filter : Filter ⟨"", "", []⟩) (error : Error),
      filter.expr.compile (.single ⟨"", "", []⟩) .empty = (.error error, .empty) ∧
        ∃ expr reason, error = .unsupported expr reason ∧ Refused expr reason := by
  have sound := typed_sound ⟨"", "", []⟩
  let zero : Scalar ⟨"", "", []⟩ ⟨.int32, false⟩ := .literal (.int32 0) rfl
  refine ⟨⟨zero, _, rfl, rfl, (sound.1 _ zero rfl).1 _ rfl⟩, ?_, ?_⟩
  · have failed : (Scalar.arithmetic .div zero zero rfl).expr.evaluate = .error _ := rfl
    exact ⟨_, _, rfl, failed, (sound.1 _ _ rfl).2 _ failed⟩
  · let sum : Scalar ⟨"", "", []⟩ ⟨.int32, false⟩ := .arithmetic .add (.column "Age") zero rfl
    have failed : (Filter.compare .greater sum zero).expr.compile (.single ⟨"", "", []⟩) .empty =
      (.error _, .empty) := rfl
    exact ⟨_, _, failed, sound.2 _ _ _ _ failed⟩

end TypedSql
