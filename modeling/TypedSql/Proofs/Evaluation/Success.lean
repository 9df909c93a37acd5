import TypedSql.Expr.Evaluation
import TypedSql.Proofs.Except

namespace TypedSql

namespace Value

/-- The value of a function of a value, where null stays null. -/
def applied (function : Function) (value : Value) : Except Unsupported Value :=
  if value.isNull then .ok .null else value.apply function

/-- The value rounded to places, where null stays null. -/
def rounded (places : Int) (value : Value) : Except Unsupported Value :=
  if value.isNull then .ok .null else value.round places

end Value

namespace Connective

/-- A connective of truth values, the second of which is asked for only if the first leaves it
open. -/
def shortCircuit {ε : Type} (connective : Connective) (left right : Except ε Bool) :
    Except ε Bool := do
  let first ← left
  if connective.isSettledBy first then return first else right

theorem shortCircuit_assoc {ε : Type} (connective : Connective)
    (first second third : Except ε Bool) :
    connective.shortCircuit (connective.shortCircuit first second) third =
      connective.shortCircuit first (connective.shortCircuit second third) := by
  cases first with
  | error => rfl
  | ok truth => cases connective <;> cases truth <;> rfl

/-- The dual of a connective is settled by what does not settle the connective. -/
theorem isSettledBy_under (connective : Connective) (negated truth : Bool) :
    (if negated then connective.dual else connective).isSettledBy (truth != negated) =
      connective.isSettledBy truth := by
  cases negated <;> cases connective <;> cases truth <;> rfl

theorem shortCircuit_under {ε ε' : Type} {connective : Connective} {negated truth : Bool}
    {left right : Except ε Bool} {left' right' : Except ε' Bool}
    (first : ∀ a, left = .ok a → left' = .ok (a != negated))
    (second : ∀ a, right = .ok a → right' = .ok (a != negated))
    (decided : connective.shortCircuit left right = .ok truth) :
    (if negated then connective.dual else connective).shortCircuit left' right' =
      .ok (truth != negated) := by
  obtain ⟨a, evaluated, last⟩ := Except.bind_ok.mp decided
  refine Except.bind_ok.mpr ⟨a != negated, first a evaluated, ?_⟩
  rw [isSettledBy_under]
  split at last
  · rename_i settled
    rw [if_pos settled]
    cases last
    rfl
  · rename_i settled
    rw [if_neg settled]
    exact second truth last

end Connective

namespace Expr

attribute [local simp] evaluate

variable {expr inner left right receiver : Expr} {arguments items : List Expr}

theorem step_ok {α : Type} {step : Except Unsupported α} {result : α} :
    expr.step step = .ok result ↔ step = .ok result :=
  Except.mapError_ok

theorem asBool_ok {value : Value} {truth : Bool} :
    expr.asBool value = .ok truth ↔ value = .bool truth := by
  cases value <;> simp [asBool]

theorem evaluateBool_ok {truth : Bool} :
    expr.evaluateBool = .ok truth ↔ expr.evaluate = .ok (.bool truth) := by
  simp [evaluateBool, Except.bind_ok, asBool_ok]

theorem evaluate_not_ok {value : Value} :
    (not inner).evaluate = .ok value ↔
      ∃ truth, inner.evaluateBool = .ok truth ∧ .bool (!truth) = value := by
  simp only [evaluate, evaluateBool, Except.bind_ok, pure, Except.pure, Except.ok.injEq]
  grind

theorem evaluate_connect_ok {connective : Connective} {value : Value} :
    (connect connective left right).evaluate = .ok value ↔
      ∃ truth, connective.shortCircuit left.evaluateBool right.evaluateBool = .ok truth ∧
        .bool truth = value := by
  have chosen : ∀ first, (if connective.isSettledBy first = true then .ok (.bool first)
      else do return .bool (← right.asBool (← right.evaluate)) : Except Error Value) = .ok value ↔
      ∃ truth, (if connective.isSettledBy first = true then .ok first else right.evaluateBool) =
        .ok truth ∧ .bool truth = value := by
    intro first
    split
    · simp
    · simp only [evaluateBool_ok, Except.bind_ok, asBool_ok, pure, Except.pure, Except.ok.injEq]
      constructor
      · rintro ⟨a, evaluated, truth, rfl, last⟩
        exact ⟨truth, evaluated, last⟩
      · rintro ⟨truth, evaluated, last⟩
        exact ⟨_, evaluated, truth, rfl, last⟩
  simp only [evaluate, evaluateBool, Connective.shortCircuit, Except.bind_ok]
  constructor
  · rintro ⟨a, evaluated, first, isBool, last⟩
    obtain ⟨truth, second, rfl⟩ := (chosen first).mp last
    exact ⟨truth, ⟨first, ⟨a, evaluated, isBool⟩, second⟩, rfl⟩
  · rintro ⟨truth, ⟨first, ⟨a, evaluated, isBool⟩, second⟩, rfl⟩
    exact ⟨a, evaluated, first, isBool, (chosen first).mpr ⟨truth, second, rfl⟩⟩

theorem evaluate_compare_ok {comparison : Comparison} {value : Value} :
    (compare comparison left right).evaluate = .ok value ↔
      ∃ a b truth, left.evaluate = .ok a ∧ right.evaluate = .ok b ∧
        comparison.decide a b = .ok truth ∧ .bool truth = value := by
  simp [Except.bind_ok, step_ok, pure, Except.pure]

theorem evaluate_arithmetic_ok {operator : Arithmetic} {value : Value} :
    (arithmetic operator left right).evaluate = .ok value ↔
      ∃ a b, left.evaluate = .ok a ∧ right.evaluate = .ok b ∧ operator.decide a b = .ok value := by
  simp [Except.bind_ok, step_ok]

theorem evaluate_apply_ok {function : Function} {value : Value} :
    (call (.apply function) receiver arguments).evaluate = .ok value ↔
      ∃ a, receiver.evaluate = .ok a ∧ a.applied function = .ok value := by
  simp only [evaluate, Except.bind_ok, Value.applied]
  refine exists_congr fun a => and_congr_right fun _ => ?_
  split
  · simp [pure, Except.pure]
  · exact step_ok

/-- The places of a rounding are asked for only if there is something to round. -/
theorem evaluate_round_ok {value : Value} :
    (call .round receiver arguments).evaluate = .ok value ↔
      ∃ a, receiver.evaluate = .ok a ∧
        (a.isNull = true ∧ .null = value ∨ a.isNull = false ∧ ∃ places,
          argument (call .round receiver arguments) arguments 0 = .ok (.int32 places) ∧
            a.round places.toInt = .ok value) := by
  simp only [evaluate, Except.bind_ok]
  refine exists_congr fun a => and_congr_right fun _ => ?_
  cases a.isNull with
  | true => simp [pure, Except.pure]
  | false =>
    simp only [Bool.false_eq_true, if_false, false_and, false_or, true_and]
    rw [Except.bind_ok]
    constructor
    · rintro ⟨digits, evaluated, last⟩
      split at last
      · exact ⟨_, evaluated, step_ok.mp last⟩
      · cases last
    · rintro ⟨places, evaluated, last⟩
      exact ⟨_, evaluated, step_ok.mpr last⟩

theorem evaluate_between_ok {value : Value} :
    (call (.test .between) receiver arguments).evaluate = .ok value ↔
      ∃ a low high truth, receiver.evaluate = .ok a ∧
        argument (call (.test .between) receiver arguments) arguments 0 = .ok low ∧
        argument (call (.test .between) receiver arguments) arguments 1 = .ok high ∧
        Test.decideBetween a low high = .ok truth ∧ .bool truth = value := by
  simp [Except.bind_ok, step_ok, pure, Except.pure]

theorem evaluate_isIn_ok {value : Value} :
    (call (.test .isIn) receiver arguments).evaluate = .ok value ↔
      ∃ a truth, receiver.evaluate = .ok a ∧
        membership (call (.test .isIn) receiver arguments) a arguments = .ok truth ∧
        .bool truth = value := by
  simp [Except.bind_ok, pure, Except.pure]

theorem evaluate_test_ok {kind : Test} (noRange : kind ≠ .between) (noList : kind ≠ .isIn)
    {value : Value} :
    (call (.test kind) receiver arguments).evaluate = .ok value ↔
      ∃ a other truth, receiver.evaluate = .ok a ∧
        argument (call (.test kind) receiver arguments) arguments 0 = .ok other ∧
        kind.decideOne a other = .ok truth ∧ .bool truth = value := by
  cases kind with
  | between => exact (noRange rfl).elim
  | isIn => exact (noList rfl).elim
  | _ =>
    simp only [evaluate, Except.bind_ok, step_ok, pure, Except.pure, Except.ok.injEq]
    grind

theorem anyEqual_cons_ok {first : Expr} {value : Value} {truth : Bool} :
    anyEqual expr value (first :: items) = .ok truth ↔
      ∃ item same, first.evaluate = .ok item ∧ Comparison.decide .equal value item = .ok same ∧
        if same then true = truth else anyEqual expr value items = .ok truth := by
  simp only [anyEqual, Except.bind_ok, step_ok]
  constructor
  · rintro ⟨item, evaluated, same, decided, last⟩
    refine ⟨item, same, evaluated, decided, ?_⟩
    cases same with
    | true => exact Except.ok.inj last
    | false => exact last
  · rintro ⟨item, same, evaluated, decided, last⟩
    refine ⟨item, evaluated, same, decided, ?_⟩
    cases same with
    | true => exact congrArg Except.ok last
    | false => exact last

-- The first argument of what follows is the expression that an error is about. It matters for
-- errors alone, so that a value is the same whatever it is.

theorem argument_take {other : Expr} {taken index : Nat} (within : index < taken) {value : Value} :
    argument other (arguments.take taken) index = .ok value ↔
      argument expr arguments index = .ok value := by
  induction arguments generalizing taken index with
  | nil => simp [argument]
  | cons first rest ih =>
    cases taken with
    | zero => omega
    | succ taken =>
      cases index with
      | zero => rfl
      | succ index => exact ih (Nat.lt_of_succ_lt_succ within)

theorem anyEqual_congr {other : Expr} {value : Value} {truth : Bool} :
    anyEqual other value items = .ok truth ↔ anyEqual expr value items = .ok truth := by
  induction items with
  | nil => rfl
  | cons first rest ih => simp only [anyEqual_cons_ok, ih]

theorem membership_take {other : Expr} {value : Value} {truth : Bool} :
    membership other value (arguments.take 1) = .ok truth ↔
      membership expr value arguments = .ok truth := by
  cases arguments with
  | nil => simp [membership]
  | cons first rest =>
    cases first with
    | list items => exact anyEqual_congr
    | _ => simp [membership, hasItem]

theorem averageOf_congr {other : Expr} {sum : Float} {count : Nat}
    {value : Value} (evaluated : averageOf expr items sum count = .ok value) :
    averageOf other items sum count = .ok value := by
  induction items generalizing sum count with
  | nil => exact evaluated
  | cons first rest ih =>
    rw [averageOf] at evaluated ⊢
    obtain ⟨item, evaluatedItem, last⟩ := Except.bind_ok.mp evaluated
    refine Except.bind_ok.mpr ⟨item, evaluatedItem, ?_⟩
    split
    · rename_i null
      rw [if_pos null] at last
      exact ih last
    · rename_i present
      rw [if_neg present] at last
      split at last
      · exact ih last
      · cases last

theorem average_congr {other : Expr} {value : Value}
    (evaluated : average expr receiver = .ok value) :
    receiver.isBound = false ∧ average other receiver = .ok value := by
  cases receiver with
  | list items =>
    rw [average] at evaluated ⊢
    split at evaluated
    · cases evaluated
    · rename_i free
      rw [if_neg free]
      exact ⟨by simpa [isBound] using free, averageOf_congr evaluated⟩
  | _ => cases evaluated

end Expr

end TypedSql
