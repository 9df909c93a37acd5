import TypedSql.Proofs.Evaluation.Passing

namespace TypedSql

namespace Connective

variable {ε ε' : Type}

theorem shortCircuit_or_false (step : Except ε Bool) : or.shortCircuit step (.ok false) = step := by
  cases step with
  | error => rfl
  | ok truth => cases truth <;> rfl

/-- Disjunctions that are grouped to the left are decided as those that are grouped to the right. -/
theorem foldl_or (first : Except ε Bool) (rest : List (Except ε Bool)) :
    rest.foldl or.shortCircuit first =
      or.shortCircuit first (rest.foldr or.shortCircuit (.ok false)) := by
  induction rest generalizing first with
  | nil => exact (shortCircuit_or_false first).symm
  | cons second rest ih => rw [List.foldl_cons, ih, shortCircuit_assoc, List.foldr_cons]

theorem shortCircuit_ok_congr {connective : Connective} {left right : Except ε Bool}
    {left' right' : Except ε' Bool} (first : ∀ a, left = .ok a ↔ left' = .ok a)
    (second : ∀ a, right = .ok a ↔ right' = .ok a) (truth : Bool) :
    connective.shortCircuit left right = .ok truth ↔
      connective.shortCircuit left' right' = .ok truth := by
  simp only [shortCircuit, Except.bind_ok]
  refine exists_congr fun a => and_congr (first a) ?_
  split
  · simp only [pure, Except.pure, Except.ok.injEq]
  · exact second truth

end Connective

theorem Test.decideBetween_eq (value low high : Value) :
    decideBetween value low high =
      Connective.and.shortCircuit (Comparison.decide .greaterOrEqual value low)
        (Comparison.decide .lessOrEqual value high) := by
  refine bind_congr fun above => ?_
  cases above <;> rfl

namespace Expr

/-- `first || second || ...`, where `||` groups to the left. -/
def anyOf (first : Expr) (rest : List Expr) : Expr :=
  rest.foldl (connect .or) first

/-- Whether the expression evaluates to nothing but truth values. -/
def IsCondition (expr : Expr) : Prop :=
  ∀ value, expr.evaluate = .ok value → ∃ truth, .bool truth = value

variable {subject low high first : Expr} {items rest : List Expr}

theorem IsCondition.evaluate_ok {expr : Expr} (condition : expr.IsCondition) {value : Value} :
    expr.evaluate = .ok value ↔ ∃ truth, expr.evaluateBool = .ok truth ∧ .bool truth = value := by
  simp only [evaluateBool_ok]
  constructor
  · intro evaluated
    obtain ⟨truth, rfl⟩ := condition value evaluated
    exact ⟨truth, evaluated, rfl⟩
  · rintro ⟨truth, evaluated, rfl⟩
    exact evaluated

theorem isCondition_compare {comparison : Comparison} {left right : Expr} :
    (compare comparison left right).IsCondition := by
  intro value evaluated
  obtain ⟨_, _, truth, _, _, _, same⟩ := evaluate_compare_ok.mp evaluated
  exact ⟨truth, same⟩

theorem isCondition_connect {connective : Connective} {left right : Expr} :
    (connect connective left right).IsCondition := by
  intro value evaluated
  obtain ⟨truth, _, same⟩ := evaluate_connect_ok.mp evaluated
  exact ⟨truth, same⟩

theorem isCondition_anyOf (condition : first.IsCondition) : (anyOf first rest).IsCondition := by
  induction rest generalizing first with
  | nil => exact condition
  | cons second rest ih => exact ih isCondition_connect

theorem evaluateBool_compare_ok {comparison : Comparison} {left right : Expr} {truth : Bool} :
    (compare comparison left right).evaluateBool = .ok truth ↔
      ∃ a b, left.evaluate = .ok a ∧ right.evaluate = .ok b ∧ comparison.decide a b = .ok truth := by
  rw [evaluateBool_ok, evaluate_compare_ok]
  simp

theorem evaluateBool_compare_of {comparison : Comparison} {left right : Expr} {a b : Value}
    {truth : Bool} (first : left.evaluate = .ok a) (second : right.evaluate = .ok b) :
    comparison.decide a b = .ok truth ↔
      (compare comparison left right).evaluateBool = .ok truth := by
  rw [evaluateBool_compare_ok]
  simp [first, second]

theorem evaluateBool_connect (connective : Connective) (left right : Expr) :
    (connect connective left right).evaluateBool =
      connective.shortCircuit left.evaluateBool right.evaluateBool := by
  simp only [evaluateBool, evaluate, Connective.shortCircuit, bind_assoc]
  refine bind_congr fun a => bind_congr fun truth => ?_
  split
  · rfl
  · simp only [bind_assoc, pure_bind]
    exact bind_congr fun b => bind_pure (right.asBool b)

theorem evaluateBool_anyOf (first : Expr) (rest : List Expr) :
    (anyOf first rest).evaluateBool =
      (rest.map evaluateBool).foldl Connective.or.shortCircuit first.evaluateBool := by
  induction rest generalizing first with
  | nil => rfl
  | cons second rest ih =>
    rw [List.map_cons, List.foldl_cons, ← evaluateBool_connect]
    exact ih (connect .or first second)

theorem anyEqual_cons (expr : Expr) (value : Value) (first : Expr) (rest : List Expr) :
    anyEqual expr value (first :: rest) =
      Connective.or.shortCircuit
        (do expr.step (Comparison.decide .equal value (← first.evaluate)))
        (anyEqual expr value rest) := by
  rw [anyEqual, Connective.shortCircuit, bind_assoc]
  refine bind_congr fun item => bind_congr fun same => ?_
  cases same <;> rfl

/-- Whether a value is among the items is the disjunction of the comparisons of its expression with
each of them. -/
theorem anyEqual_ok {value : Value} (evaluated : subject.evaluate = .ok value) (expr : Expr)
    (items : List Expr) (truth : Bool) :
    anyEqual expr value items = .ok truth ↔
      (items.map fun item => (compare .equal subject item).evaluateBool).foldr
        Connective.or.shortCircuit (.ok false) = .ok truth := by
  induction items generalizing truth with
  | nil => exact Iff.rfl
  | cons first rest ih =>
    rw [anyEqual_cons, List.map_cons, List.foldr_cons]
    refine Connective.shortCircuit_ok_congr (fun same => ?_) ih truth
    rw [Except.bind_ok, evaluateBool_compare_ok]
    simp [evaluated, step_ok]

theorem evaluate_isIn_iff (subject first : Expr) (rest : List Expr) (value : Value) :
    (call (.test .isIn) subject [list (first :: rest)]).evaluate = .ok value ↔
      (anyOf (compare .equal subject first) (rest.map (compare .equal subject))).evaluate =
        .ok value := by
  rw [(isCondition_anyOf isCondition_compare).evaluate_ok, evaluate_isIn_ok, exists_comm]
  refine exists_congr fun truth => ?_
  rw [evaluateBool_anyOf, Connective.foldl_or, List.map_map]
  constructor
  · rintro ⟨a, evaluated, member, same⟩
    exact ⟨(anyEqual_ok evaluated _ (first :: rest) truth).mp member, same⟩
  · rintro ⟨decided, same⟩
    obtain ⟨_, compared, _⟩ := Except.bind_ok.mp decided
    obtain ⟨a, _, evaluated, _⟩ := evaluateBool_compare_ok.mp compared
    exact ⟨a, evaluated, (anyEqual_ok evaluated _ (first :: rest) truth).mpr decided, same⟩

theorem conjunction_ok {a b c : Value} (evaluated : subject.evaluate = .ok a)
    (evaluatedLow : low.evaluate = .ok b) (evaluatedHigh : high.evaluate = .ok c) (truth : Bool) :
    Test.decideBetween a b c = .ok truth ↔
      Connective.and.shortCircuit (compare .greaterOrEqual subject low).evaluateBool
        (compare .lessOrEqual subject high).evaluateBool = .ok truth := by
  rw [Test.decideBetween_eq]
  exact Connective.shortCircuit_ok_congr
    (fun _ => evaluateBool_compare_of evaluated evaluatedLow)
    (fun _ => evaluateBool_compare_of evaluated evaluatedHigh) truth

/-- A range asks for its upper end even where the lower one settles it. -/
theorem evaluate_between_iff (subject low high : Expr) (value : Value) :
    (call (.test .between) subject [low, high]).evaluate = .ok value ↔
      (connect .and (compare .greaterOrEqual subject low)
        (compare .lessOrEqual subject high)).evaluate = .ok value ∧
        ∃ bound, high.evaluate = .ok bound := by
  rw [evaluate_between_ok, evaluate_connect_ok]
  constructor
  · rintro ⟨a, b, c, truth, evaluated, evaluatedLow, evaluatedHigh, decided, same⟩
    exact ⟨⟨truth, (conjunction_ok evaluated evaluatedLow evaluatedHigh truth).mp decided, same⟩,
      c, evaluatedHigh⟩
  · rintro ⟨⟨truth, decided, same⟩, c, evaluatedHigh⟩
    obtain ⟨_, compared, _⟩ := Except.bind_ok.mp decided
    obtain ⟨a, b, evaluated, evaluatedLow, _⟩ := evaluateBool_compare_ok.mp compared
    exact ⟨a, b, c, truth, evaluated, evaluatedLow, evaluatedHigh,
      (conjunction_ok evaluated evaluatedLow evaluatedHigh truth).mpr decided, same⟩

end Expr

/-- Membership in a list of items is the disjunction of the comparisons with each of them: with the
same values, and failing where it fails. A range is the conjunction of the comparisons with its
ends, but fails also where its upper end alone does. -/
theorem evaluate_desugars (subject : Expr) :
    (∀ (first : Expr) (rest : List Expr),
      let isIn := Expr.call (.test .isIn) subject [.list (first :: rest)]
      let disjunction :=
        Expr.anyOf (.compare .equal subject first) (rest.map (.compare .equal subject))
      (∀ value, isIn.evaluate = .ok value ↔ disjunction.evaluate = .ok value) ∧
        ((∃ error, isIn.evaluate = .error error) ↔
          ∃ error, disjunction.evaluate = .error error)) ∧
    ∀ (low high : Expr) (value : Value),
      (Expr.call (.test .between) subject [low, high]).evaluate = .ok value ↔
        (Expr.connect .and (.compare .greaterOrEqual subject low)
          (.compare .lessOrEqual subject high)).evaluate = .ok value ∧
          ∃ bound, high.evaluate = .ok bound := by
  refine ⟨fun first rest => ?_, Expr.evaluate_between_iff subject⟩
  have same := Expr.evaluate_isIn_iff subject first rest
  exact ⟨same, Except.exists_error_iff same⟩

example :
    let zero : Expr := .literal (.int32 0)
    let one : Expr := .literal (.int32 1)
    let quotient : Expr := .arithmetic .div zero zero
    (Expr.call (.test .between) zero [one, quotient]).evaluate =
        .error (.unsupported quotient .arithmeticOverflow) ∧
      (Expr.connect .and (.compare .greaterOrEqual zero one)
        (.compare .lessOrEqual zero quotient)).evaluate = .ok (.bool false) :=
  ⟨rfl, rfl⟩

end TypedSql
