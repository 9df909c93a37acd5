import TypedSql.Proofs.Evaluation.Success

namespace TypedSql.Expr

variable (row : ColumnRef → Value)

mutual

/-- The expression with each column replaced by its value in a row. -/
def fill : Expr → Expr
  | column reference => literal (row reference)
  | literal value => literal value
  | list items => list (fillAll items)
  | compare comparison left right => compare comparison left.fill right.fill
  | connect connective left right => connect connective left.fill right.fill
  | arithmetic operator left right => arithmetic operator left.fill right.fill
  | not inner => not inner.fill
  | call method receiver arguments => call method receiver.fill (fillAll arguments)

def fillAll : List Expr → List Expr
  | [] => []
  | first :: rest => first.fill :: fillAll rest

end

mutual

theorem isBound_fill : (expr : Expr) → (expr.fill row).isBound = false
  | column _ | literal _ => by simp [fill, isBound]
  | list items => by simp [fill, isBound, anyBound_fillAll items]
  | compare _ left right | connect _ left right | arithmetic _ left right => by
    simp [fill, isBound, isBound_fill left, isBound_fill right]
  | not inner => by simp [fill, isBound, isBound_fill inner]
  | call _ receiver arguments => by
    simp [fill, isBound, isBound_fill receiver, anyBound_fillAll arguments]

theorem anyBound_fillAll : (items : List Expr) → anyBound (fillAll row items) = false
  | [] => by simp [fillAll, anyBound]
  | first :: rest => by simp [fillAll, anyBound, isBound_fill first, anyBound_fillAll rest]

end

theorem shortCircuit_mono {connective : Connective} {left left' right right' : Except Error Bool}
    {truth : Bool} (first : ∀ a, left = .ok a → left' = .ok a)
    (second : ∀ a, right = .ok a → right' = .ok a)
    (decided : connective.shortCircuit left right = .ok truth) :
    connective.shortCircuit left' right' = .ok truth := by
  have kept := @Connective.shortCircuit_under _ _ connective false truth left right left' right'
  simp only [Bool.bne_false, Bool.false_eq_true, if_false] at kept
  exact kept first second decided

mutual

/-- What an expression evaluates to depends on no column, since none is met on the way. -/
theorem evaluate_fill : (expr : Expr) → {value : Value} → expr.evaluate = .ok value →
    (expr.fill row).evaluate = .ok value
  | literal written, value, evaluated => evaluated
  | column _, _, evaluated => by cases evaluated
  | list _, _, evaluated => by cases evaluated
  | not inner, value, evaluated => by
    obtain ⟨truth, first, rfl⟩ := evaluate_not_ok.mp evaluated
    have filled := evaluate_fill inner (evaluateBool_ok.mp first)
    exact evaluate_not_ok.mpr ⟨truth, evaluateBool_ok.mpr filled, rfl⟩
  | connect connective left right, value, evaluated => by
    obtain ⟨truth, decided, rfl⟩ := evaluate_connect_ok.mp evaluated
    refine evaluate_connect_ok.mpr ⟨truth, shortCircuit_mono ?_ ?_ decided, rfl⟩
    · exact fun a first => evaluateBool_ok.mpr (evaluate_fill left (evaluateBool_ok.mp first))
    · exact fun a second => evaluateBool_ok.mpr (evaluate_fill right (evaluateBool_ok.mp second))
  | compare comparison left right, value, evaluated => by
    obtain ⟨a, b, truth, first, second, decided, rfl⟩ := evaluate_compare_ok.mp evaluated
    exact evaluate_compare_ok.mpr
      ⟨a, b, truth, evaluate_fill left first, evaluate_fill right second, decided, rfl⟩
  | arithmetic operator left right, value, evaluated => by
    obtain ⟨a, b, first, second, decided⟩ := evaluate_arithmetic_ok.mp evaluated
    exact evaluate_arithmetic_ok.mpr
      ⟨a, b, evaluate_fill left first, evaluate_fill right second, decided⟩
  | call method receiver arguments, value, evaluated => by
    simp only [fill]
    cases method with
    | average =>
      simp only [evaluate] at evaluated ⊢
      exact average_fill _ _ receiver evaluated
    | apply function =>
      obtain ⟨a, first, applied⟩ := evaluate_apply_ok.mp evaluated
      exact evaluate_apply_ok.mpr ⟨a, evaluate_fill receiver first, applied⟩
    | round =>
      obtain ⟨a, first, last⟩ := evaluate_round_ok.mp evaluated
      refine evaluate_round_ok.mpr ⟨a, evaluate_fill receiver first, last.imp_right ?_⟩
      exact fun ⟨present, places, digits, rounded⟩ =>
        ⟨present, places, argument_fill _ _ arguments 0 digits, rounded⟩
    | test kind =>
      cases kind with
      | between =>
        obtain ⟨a, low, high, truth, first, second, third, decided, rfl⟩ :=
          evaluate_between_ok.mp evaluated
        exact evaluate_between_ok.mpr ⟨a, low, high, truth, evaluate_fill receiver first,
          argument_fill _ _ arguments 0 second, argument_fill _ _ arguments 1 third, decided, rfl⟩
      | isIn =>
        obtain ⟨a, truth, first, member, rfl⟩ := evaluate_isIn_ok.mp evaluated
        exact evaluate_isIn_ok.mpr ⟨a, truth, evaluate_fill receiver first,
          membership_fill _ _ a arguments member, rfl⟩
      | contains | startsWith | endsWith | after | before | matchesPattern =>
        obtain ⟨a, other, truth, first, second, decided, rfl⟩ :=
          (evaluate_test_ok (by decide) (by decide)).mp evaluated
        exact (evaluate_test_ok (by decide) (by decide)).mpr ⟨a, other, truth,
          evaluate_fill receiver first, argument_fill _ _ arguments 0 second, decided, rfl⟩

termination_by structural expr => expr

theorem argument_fill (expr expr' : Expr) : (arguments : List Expr) → (index : Nat) →
    {value : Value} → argument expr arguments index = .ok value →
    argument expr' (fillAll row arguments) index = .ok value
  | [], _, _, evaluated => by cases evaluated
  | first :: rest, index, value, evaluated => by
    cases index with
    | zero => exact evaluate_fill first evaluated
    | succ index => exact argument_fill expr expr' rest index evaluated

termination_by structural arguments => arguments

theorem membership_fill (expr expr' : Expr) (value : Value) : (arguments : List Expr) →
    {truth : Bool} → membership expr value arguments = .ok truth →
    membership expr' value (fillAll row arguments) = .ok truth
  | [], _, evaluated => by cases evaluated
  | first :: rest, truth, evaluated => hasItem_fill expr expr' value first evaluated

termination_by structural arguments => arguments

theorem hasItem_fill (expr expr' : Expr) (value : Value) : (first : Expr) →
    {truth : Bool} → hasItem expr value first = .ok truth →
    hasItem expr' value (first.fill row) = .ok truth
  | list items, truth, evaluated => anyEqual_fill expr expr' value items evaluated
  | column _, _, evaluated | literal _, _, evaluated | compare _ _ _, _, evaluated
  | connect _ _ _, _, evaluated | arithmetic _ _ _, _, evaluated | not _, _, evaluated
  | call _ _ _, _, evaluated => by cases evaluated

termination_by structural first => first

theorem anyEqual_fill (expr expr' : Expr) (value : Value) : (items : List Expr) →
    {truth : Bool} → anyEqual expr value items = .ok truth →
    anyEqual expr' value (fillAll row items) = .ok truth
  | [], truth, evaluated => evaluated
  | first :: rest, truth, evaluated => by
    obtain ⟨item, same, found, decided, last⟩ := anyEqual_cons_ok.mp evaluated
    refine anyEqual_cons_ok.mpr ⟨item, same, evaluate_fill first found, decided, ?_⟩
    cases same with
    | true => exact last
    | false => exact anyEqual_fill expr expr' value rest last

termination_by structural items => items

theorem average_fill (expr expr' : Expr) : (items : Expr) → {value : Value} →
    average expr items = .ok value → average expr' (items.fill row) = .ok value
  | list items, value, evaluated => by
    simp only [average, fill] at evaluated ⊢
    split at evaluated
    · cases evaluated
    · rw [anyBound_fillAll row items]
      exact averageOf_fill expr expr' items 0 0 evaluated
  | column _, _, evaluated | literal _, _, evaluated | compare _ _ _, _, evaluated
  | connect _ _ _, _, evaluated | arithmetic _ _ _, _, evaluated | not _, _, evaluated
  | call _ _ _, _, evaluated => by cases evaluated

termination_by structural items => items

theorem averageOf_fill (expr expr' : Expr) : (items : List Expr) → (sum : Float) → (count : Nat) →
    {value : Value} → averageOf expr items sum count = .ok value →
    averageOf expr' (fillAll row items) sum count = .ok value
  | [], sum, count, value, evaluated => evaluated
  | first :: rest, sum, count, value, evaluated => by
    obtain ⟨a, found, last⟩ := Except.bind_ok.mp evaluated
    refine Except.bind_ok.mpr ⟨a, evaluate_fill first found, ?_⟩
    split at last
    · rename_i null
      rw [if_pos null]
      exact averageOf_fill expr expr' rest sum count last
    · rename_i present
      rw [if_neg present]
      split at last
      · exact averageOf_fill expr expr' rest _ _ last
      · cases last

termination_by structural items => items

end

theorem eq_of_evaluate_fill {expr : Expr} {value other : Value} (free : expr.evaluate = .ok value)
    (filled : (expr.fill row).evaluate = .ok other) : value = other :=
  Except.ok.inj ((evaluate_fill row expr free).symm.trans filled)

theorem evaluateBool_fill {expr : Expr} {truth : Bool} (evaluated : expr.evaluateBool = .ok truth) :
    (expr.fill row).evaluateBool = .ok truth :=
  evaluateBool_ok.mpr (evaluate_fill row expr (evaluateBool_ok.mp evaluated))

end TypedSql.Expr
