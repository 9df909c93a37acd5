import TypedSql.Proofs.Evaluation.Exact
import TypedSql.Proofs.Evaluation.Filling

namespace TypedSql

namespace Numeric

theorem isExact_of_value {value : Value} {number : Numeric} (exact : value.isExact)
    (numeric : ofValue? value = some number) : number.isExact := by
  cases value with
  | single | double => cases exact
  | int32 | int64 | decimal =>
    cases numeric
    rfl
  | _ => cases numeric

theorem isExact_toValue (number : Numeric) : number.toValue.isExact = number.isExact := by
  cases number <;> rfl

theorem isNull_toValue (number : Numeric) : number.toValue.isNull = false := by
  cases number <;> rfl

theorem isExact_ofInt32? {value : Int} {number : Numeric} (inRange : ofInt32? value = some number) :
    number.isExact := by
  simp only [ofInt32?, Option.ite_none_right_eq_some] at inRange
  obtain ⟨_, same⟩ := inRange
  cases same
  rfl

theorem isExact_ofInt64? {value : Int} {number : Numeric} (inRange : ofInt64? value = some number) :
    number.isExact := by
  simp only [ofInt64?, Option.ite_none_right_eq_some] at inRange
  obtain ⟨_, same⟩ := inRange
  cases same
  rfl

theorem isExact_abs? {number result : Numeric} (exact : number.isExact)
    (taken : number.abs? = some result) : result.isExact := by
  cases number with
  | single | double => cases exact
  | int32 => exact isExact_ofInt32? taken
  | int64 => exact isExact_ofInt64? taken
  | decimal =>
    cases taken
    rfl

theorem isExact_round? {number result : Numeric} {places : Int} (exact : number.isExact)
    (rounded : number.round? places = some result) : result.isExact := by
  cases number with
  | single | double => cases exact
  | int32 | int64 | decimal =>
    simp only [round?, Option.ite_none_left_eq_some] at rounded
    obtain ⟨_, same⟩ := rounded
    cases same
    rfl

theorem exists_toInt {number : Numeric} (exact : number.isExact)
    (whole : number.isDecimal = false) :
    ∃ value, number.toInt? = some value := by
  cases number with
  | single | double => cases exact
  | decimal => cases whole
  | int32 | int64 => exact ⟨_, rfl⟩

theorem isExact_calculate? {operator : Arithmetic} {left right result : Numeric}
    (exactLeft : left.isExact) (exactRight : right.isExact)
    (calculated : calculate? operator left right = some result) : result.isExact := by
  unfold calculate? at calculated
  split at calculated
  · simp only [Option.bind_eq_bind, Option.bind_eq_some_iff] at calculated
    obtain ⟨_, _, _, _, _, _, same⟩ := calculated
    cases same
    rfl
  · rename_i noDecimal
    split at calculated
    · obtain ⟨_, _, inRange⟩ := Option.bind_eq_some_iff.mp calculated
      exact isExact_ofInt32? inRange
    · split at calculated
      · obtain ⟨_, _, inRange⟩ := Option.bind_eq_some_iff.mp calculated
        exact isExact_ofInt64? inRange
      · rename_i noIntegers
        simp only [Bool.or_eq_true, not_or, Bool.not_eq_true] at noDecimal
        obtain ⟨a, first⟩ := exists_toInt exactLeft noDecimal.1
        obtain ⟨b, second⟩ := exists_toInt exactRight noDecimal.2
        exact (noIntegers a b first second).elim

end Numeric

theorem Arithmetic.isExact_decide {operator : Arithmetic} {left right result : Value}
    (exactLeft : left.isExact) (exactRight : right.isExact)
    (decided : operator.decide left right = .ok result) : result.isExact := by
  unfold decide at decided
  split at decided
  · cases decided
    rfl
  · split at decided
    · cases decided
      rfl
    · split at decided
      · rename_i a b first second
        split at decided
        · rename_i number calculated
          cases decided
          rw [Numeric.isExact_toValue]
          exact Numeric.isExact_calculate? (Numeric.isExact_of_value exactLeft first)
            (Numeric.isExact_of_value exactRight second) calculated
        · cases decided
      · cases decided

namespace Value

theorem map_asText_ok {value result : Value} {change : String → String}
    (changed : (value.asText.map fun text => string (change text)) = .ok result) :
    result.isExact ∧ result.isNull = false := by
  cases value with
  | string =>
    cases changed
    exact ⟨rfl, rfl⟩
  | _ => cases changed

theorem datePart_ok {part : DateTime → Int} {value result : Value}
    (taken : value.datePart part = .ok result) : result.isExact ∧ result.isNull = false := by
  cases value with
  | datetime =>
    cases taken
    exact ⟨rfl, rfl⟩
  | _ => cases taken

/-- Functions of exact values have exact values other than null. -/
theorem apply_ok {function : Function} {value result : Value} (exact : value.isExact)
    (applied : value.apply function = .ok result) : result.isExact ∧ result.isNull = false := by
  cases function with
  | upper | lower | trim => exact map_asText_ok applied
  | year | month | day => exact datePart_ok applied
  | length =>
    obtain ⟨text, _, counted⟩ := Except.bind_ok.mp applied
    split at counted
    · rename_i number inRange
      cases counted
      exact ⟨(Numeric.isExact_toValue number).trans (Numeric.isExact_ofInt32? inRange),
        number.isNull_toValue⟩
    · cases counted
  | abs =>
    simp only [apply] at applied
    split at applied
    · rename_i result taken
      cases applied
      obtain ⟨number, numeric, inRange⟩ := Option.bind_eq_some_iff.mp taken
      exact ⟨(Numeric.isExact_toValue result).trans
        (Numeric.isExact_abs? (Numeric.isExact_of_value exact numeric) inRange),
        result.isNull_toValue⟩
    · cases applied

theorem isExact_applied {function : Function} {value result : Value} (exact : value.isExact)
    (applied : value.applied function = .ok result) : result.isExact := by
  unfold Value.applied at applied
  split at applied
  · cases applied
    rfl
  · exact (apply_ok exact applied).1

theorem round_ok {value result : Value} {places : Int} (exact : value.isExact)
    (rounded : value.round places = .ok result) : result.isExact ∧ result.isNull = false := by
  unfold round at rounded
  split at rounded
  · cases rounded
  · rename_i number numeric
    split at rounded
    · rename_i result inRange
      cases rounded
      exact ⟨(Numeric.isExact_toValue result).trans
        (Numeric.isExact_round? (Numeric.isExact_of_value exact numeric) inRange),
        result.isNull_toValue⟩
    · cases rounded

end Value

/-- Whether the method is no mean and no search for a text. -/
def Method.isPlain : Method → Bool
  | average | test .contains | test .startsWith | test .endsWith => false
  | _ => true

namespace Expr

mutual

/-- Whether no binary number is written in the expression and all its methods are plain. -/
def isPlain : Expr → Bool
  | column _ => true
  | literal value => value.isExact
  | list items => allPlain items
  | compare _ left right | connect _ left right | arithmetic _ left right =>
    left.isPlain && right.isPlain
  | not inner => inner.isPlain
  | call method receiver arguments => method.isPlain && receiver.isPlain && allPlain arguments

def allPlain : List Expr → Bool
  | [] => true
  | first :: rest => first.isPlain && allPlain rest

end

mutual

theorem isPlain_fill {row : ColumnRef → Value}
    (exact : ∀ reference, (row reference).isExact = true) :
    (expr : Expr) → expr.isPlain = true → (expr.fill row).isPlain = true
  | column reference, _ => exact reference
  | literal _, plain => plain
  | list items, plain => allPlain_fillAll exact items plain
  | compare _ left right, plain | connect _ left right, plain | arithmetic _ left right, plain => by
    simp only [isPlain, Bool.and_eq_true] at plain
    simp [fill, isPlain, isPlain_fill exact left plain.1, isPlain_fill exact right plain.2]
  | not inner, plain => isPlain_fill exact inner plain
  | call _ receiver arguments, plain => by
    simp only [isPlain, Bool.and_eq_true] at plain
    simp [fill, isPlain, plain.1.1, isPlain_fill exact receiver plain.1.2,
      allPlain_fillAll exact arguments plain.2]

theorem allPlain_fillAll {row : ColumnRef → Value}
    (exact : ∀ reference, (row reference).isExact = true) :
    (items : List Expr) → allPlain items = true → allPlain (fillAll row items) = true
  | [], _ => rfl
  | first :: rest, plain => by
    simp only [allPlain, Bool.and_eq_true] at plain
    simp [fillAll, allPlain, isPlain_fill exact first plain.1,
      allPlain_fillAll exact rest plain.2]

end

/-- What is plain has an exact value. -/
theorem isExact_evaluate : (expr : Expr) → expr.isPlain = true → {value : Value} →
    expr.evaluate = .ok value → value.isExact = true
  | literal written, plain, value, evaluated => by
    cases evaluated
    exact plain
  | column _, _, _, evaluated => by cases evaluated
  | list _, _, _, evaluated => by cases evaluated
  | not inner, _, _, evaluated => by
    obtain ⟨truth, _, rfl⟩ := evaluate_not_ok.mp evaluated
    rfl
  | connect connective left right, _, _, evaluated => by
    obtain ⟨truth, _, rfl⟩ := evaluate_connect_ok.mp evaluated
    rfl
  | compare comparison left right, _, _, evaluated => by
    obtain ⟨a, b, truth, _, _, _, rfl⟩ := evaluate_compare_ok.mp evaluated
    rfl
  | arithmetic operator left right, plain, value, evaluated => by
    simp only [isPlain, Bool.and_eq_true] at plain
    obtain ⟨a, b, first, second, decided⟩ := evaluate_arithmetic_ok.mp evaluated
    exact Arithmetic.isExact_decide (isExact_evaluate left plain.1 first)
      (isExact_evaluate right plain.2 second) decided
  | call method receiver arguments, plain, value, evaluated => by
    simp only [isPlain, Bool.and_eq_true] at plain
    cases method with
    | average => cases plain.1.1
    | apply function =>
      obtain ⟨a, first, applied⟩ := evaluate_apply_ok.mp evaluated
      exact Value.isExact_applied (isExact_evaluate receiver plain.1.2 first) applied
    | round =>
      obtain ⟨a, first, ⟨_, rfl⟩ | ⟨_, places, _, rounded⟩⟩ := evaluate_round_ok.mp evaluated
      · rfl
      · exact (Value.round_ok (isExact_evaluate receiver plain.1.2 first) rounded).1
    | test kind =>
      cases kind with
      | between =>
        obtain ⟨_, _, _, truth, _, _, _, _, rfl⟩ := evaluate_between_ok.mp evaluated
        rfl
      | isIn =>
        obtain ⟨_, truth, _, _, rfl⟩ := evaluate_isIn_ok.mp evaluated
        rfl
      | contains | startsWith | endsWith => cases plain.1.1
      | after | before | matchesPattern =>
        obtain ⟨_, _, truth, _, _, _, rfl⟩ :=
          (evaluate_test_ok (by decide) (by decide)).mp evaluated
        rfl

end Expr

end TypedSql
