import TypedSql.Proofs.Compilation.Operand
import TypedSql.Proofs.Evaluation.Success
import TypedSql.Proofs.Typing.Values

namespace TypedSql

/-- An expression that stands for a value other than null. -/
structure Expr.IsGiven (expr : Expr) : Prop where
  free : expr.isBound = false
  present : ∃ value, expr.evaluate = .ok value ∧ value.isNull = false

def Method.isTest : Method → Bool
  | test _ => true
  | _ => false

mutual

/-- Expressions of one shape over the same columns. Where values are bound to parameters, that is
beside columns in a comparison or in a test, one of them may stand for the other's value; `valued`
says whether the expressions stand in such a place. -/
inductive Alike : Bool → Expr → Expr → Prop where
  | given {first second : Expr} (value : first.IsGiven) (other : second.IsGiven) :
      Alike true first second
  | column {valued : Bool} (reference : ColumnRef) :
      Alike valued (.column reference) (.column reference)
  | literal {valued : Bool} (value : Value) : Alike valued (.literal value) (.literal value)
  | list {valued : Bool} {items others : List Expr} (each : AllAlike valued items others) :
      Alike valued (.list items) (.list others)
  | compare {valued : Bool} {comparison : Comparison} {left right left' right' : Expr}
      (first : Alike right.isBound left left') (second : Alike left.isBound right right') :
      Alike valued (.compare comparison left right) (.compare comparison left' right')
  | connect {valued : Bool} {connective : Connective} {left right left' right' : Expr}
      (first : Alike false left left') (second : Alike false right right') :
      Alike valued (.connect connective left right) (.connect connective left' right')
  | arithmetic {valued : Bool} {operator : Arithmetic} {left right left' right' : Expr}
      (first : Alike false left left') (second : Alike false right right') :
      Alike valued (.arithmetic operator left right) (.arithmetic operator left' right')
  | not {valued : Bool} {inner inner' : Expr} (within : Alike false inner inner') :
      Alike valued (.not inner) (.not inner')
  | call {valued : Bool} {method : Method} {receiver receiver' : Expr}
      {arguments arguments' : List Expr}
      (first : Alike (method.isTest && (Expr.call method receiver arguments).isBound)
        receiver receiver')
      (rest : AllAlike (method.isTest && (Expr.call method receiver arguments).isBound)
        arguments arguments') :
      Alike valued (.call method receiver arguments) (.call method receiver' arguments')

inductive AllAlike : Bool → List Expr → List Expr → Prop where
  | nil {valued : Bool} : AllAlike valued [] []
  | cons {valued : Bool} {first second : Expr} {rest others : List Expr}
      (head : Alike valued first second) (tail : AllAlike valued rest others) :
      AllAlike valued (first :: rest) (second :: others)

end

theorem Expr.IsGiven.columns {expr : Expr} (given : expr.IsGiven) : expr.columns = [] := by
  by_contra some
  have bound := (Expr.isBound_iff expr).mpr some
  rw [given.free] at bound
  cases bound

mutual

theorem Alike.columns {valued : Bool} {first second : Expr} :
    Alike valued first second → first.columns = second.columns
  | .given value other => value.columns.trans other.columns.symm
  | .column reference => rfl
  | .literal value => rfl
  | .list each => by rw [Expr.columns, Expr.columns, each.columns]
  | .compare left right | .connect left right | .arithmetic left right => by
    rw [Expr.columns, Expr.columns, left.columns, right.columns]
  | .not within => by rw [Expr.columns, Expr.columns, within.columns]
  | .call left rest => by rw [Expr.columns, Expr.columns, left.columns, rest.columns]

theorem AllAlike.columns {valued : Bool} {items others : List Expr} :
    AllAlike valued items others → Expr.columnsOf items = Expr.columnsOf others
  | .nil => rfl
  | .cons head tail => by rw [Expr.columnsOf, Expr.columnsOf, head.columns, tail.columns]

end

theorem Alike.isBound {valued : Bool} {first second : Expr} (alike : Alike valued first second) :
    first.isBound = second.isBound := by
  rw [Bool.eq_iff_iff, Expr.isBound_iff, Expr.isBound_iff, alike.columns]

mutual

theorem Alike.symm {valued : Bool} {first second : Expr} :
    Alike valued first second → Alike valued second first
  | .given value other => .given other value
  | .column reference => .column reference
  | .literal value => .literal value
  | .list each => .list each.symm
  | .compare left right => .compare (right.isBound ▸ left.symm) (left.isBound ▸ right.symm)
  | .connect left right => .connect left.symm right.symm
  | .arithmetic left right => .arithmetic left.symm right.symm
  | .not within => .not within.symm
  | @Alike.call _ method _ _ _ _ left rest => by
    have bound := (@Alike.call false method _ _ _ _ left rest).isBound
    exact .call (bound ▸ left.symm) (bound ▸ rest.symm)

theorem AllAlike.symm {valued : Bool} {items others : List Expr} :
    AllAlike valued items others → AllAlike valued others items
  | .nil => .nil
  | .cons head tail => .cons head.symm tail.symm

end

theorem AllAlike.forall₂ {valued : Bool} {items others : List Expr} :
    AllAlike valued items others → List.Forall₂ (Alike valued) items others
  | .nil => .nil
  | .cons head tail => .cons head tail.forall₂

mutual

/-- Without columns there is no place for another value. -/
theorem Alike.eq_of_free {valued : Bool} {first second : Expr} :
    Alike valued first second → valued = false → first.isBound = false → first = second
  | .given _ _, noValue, _ => by cases noValue
  | .column _, _, _ => rfl
  | .literal _, _, _ => rfl
  | .list each, noValue, free => by rw [each.eq_of_free noValue free]
  | .compare left right, _, free => by
    simp only [Expr.isBound, Bool.or_eq_false_iff] at free
    rw [left.eq_of_free free.2 free.1, right.eq_of_free free.1 free.2]
  | .connect left right, _, free | .arithmetic left right, _, free => by
    simp only [Expr.isBound, Bool.or_eq_false_iff] at free
    rw [left.eq_of_free rfl free.1, right.eq_of_free rfl free.2]
  | .not within, _, free => by rw [within.eq_of_free rfl free]
  | @Alike.call _ method receiver _ arguments _ left rest, _, free => by
    have noValue : (method.isTest && (Expr.call method receiver arguments).isBound) = false := by
      rw [free, Bool.and_false]
    simp only [Expr.isBound, Bool.or_eq_false_iff] at free
    rw [left.eq_of_free noValue free.1, rest.eq_of_free noValue free.2]

theorem AllAlike.eq_of_free {valued : Bool} {items others : List Expr} :
    AllAlike valued items others → valued = false → Expr.anyBound items = false → items = others
  | .nil, _, _ => rfl
  | .cons head tail, noValue, free => by
    simp only [Expr.anyBound, Bool.or_eq_false_iff] at free
    rw [head.eq_of_free noValue free.1, tail.eq_of_free noValue free.2]

end

/-- In the place of a value stands a given one, a list, or the same expression. -/
theorem Alike.value_cases {valued : Bool} {first second : Expr} (alike : Alike valued first second)
    (free : first.isBound = false) :
    first = second ∨ first.IsGiven ∧ second.IsGiven ∨
      ∃ items others, first = .list items ∧ second = .list others := by
  cases alike with
  | given value other => exact .inr (.inl ⟨value, other⟩)
  | list each => exact .inr (.inr ⟨_, _, rfl, rfl⟩)
  | column reference => exact .inl rfl
  | literal value => exact .inl rfl
  | compare left right => exact .inl (Alike.eq_of_free (.compare left right) rfl free)
  | connect left right => exact .inl (Alike.eq_of_free (.connect left right) rfl free)
  | arithmetic left right => exact .inl (Alike.eq_of_free (.arithmetic left right) rfl free)
  | not within => exact .inl (Alike.eq_of_free (.not within) rfl free)
  | call left rest => exact .inl (Alike.eq_of_free (.call left rest) rfl free)

theorem Alike.evaluate_value {valued : Bool} {first second : Expr} {value : Value}
    (alike : Alike valued first second) (free : first.isBound = false)
    (evaluated : first.evaluate = .ok value) :
    ∃ other, second.evaluate = .ok other ∧ other.isNull = value.isNull := by
  rcases alike.value_cases free with rfl | ⟨given, givenOther⟩ | ⟨items, others, rfl, rfl⟩
  · exact ⟨value, evaluated, rfl⟩
  · obtain ⟨own, same, present⟩ := given.present
    obtain ⟨other, evaluatedOther, presentOther⟩ := givenOther.present
    cases evaluated.symm.trans same
    exact ⟨other, evaluatedOther, presentOther.trans present.symm⟩
  · cases evaluated

/-- Whether a value is neither null nor a truth value. -/
def Value.isPlain : Value → Bool
  | null | bool _ => false
  | _ => true

theorem Arithmetic.operands_plain {operator : Arithmetic} {left right value : Value}
    (decided : operator.decide left right = .ok value) (plain : value.isPlain = true) :
    left.isPlain = true ∧ right.isPlain = true := by
  unfold decide at decided
  split at decided
  · cases decided
    cases plain
  · split at decided
    · exact ⟨rfl, rfl⟩
    · split at decided
      · rename_i a b isA isB
        constructor
        · cases left <;> first | rfl | cases isA
        · cases right <;> first | rfl | cases isB
      · cases decided

theorem Value.receiver_plain {function : Function} {argument value : Value}
    (found : argument.applied function = .ok value) (plain : value.isPlain = true) :
    argument.isPlain = true := by
  unfold applied at found
  split at found
  · cases found
    cases plain
  · cases argument with
    | null => rename_i present; exact (present rfl).elim
    | bool truth => cases function <;> cases found
    | _ => rfl

theorem Value.rounded_plain {argument value : Value} {places : Int}
    (rounded : argument.round places = .ok value) : argument.isPlain = true := by
  cases argument with
  | null | bool => cases rounded
  | _ => rfl

/-- The test of a call is true or false, and so no other value. -/
theorem Expr.evaluate_test_plain {kind : Test} {receiver : Expr} {arguments : List Expr}
    {value : Value} (evaluated : (call (.test kind) receiver arguments).evaluate = .ok value) :
    value.isPlain = false := by
  by_cases range : kind = .between
  · subst range
    obtain ⟨_, _, _, _, _, _, _, _, rfl⟩ := evaluate_between_ok.mp evaluated
    rfl
  · by_cases list : kind = .isIn
    · subst list
      obtain ⟨_, _, _, _, rfl⟩ := evaluate_isIn_ok.mp evaluated
      rfl
    · obtain ⟨_, _, _, _, _, _, rfl⟩ := (evaluate_test_ok range list).mp evaluated
      rfl

/-- Where values may not differ, an expression that calculates is worth the same. -/
theorem Alike.evaluate_plain {valued : Bool} {first second : Expr}
    (alike : Alike valued first second) (noValue : valued = false) {value : Value}
    (evaluated : first.evaluate = .ok value) (plain : value.isPlain = true) :
    second.evaluate = .ok value := by
  match alike with
  | .given _ _ => cases noValue
  | .column _ | .literal _ => exact evaluated
  | .list _ => cases evaluated
  | .compare _ _ =>
    obtain ⟨_, _, _, _, _, _, rfl⟩ := Expr.evaluate_compare_ok.mp evaluated
    cases plain
  | .connect _ _ =>
    obtain ⟨_, _, rfl⟩ := Expr.evaluate_connect_ok.mp evaluated
    cases plain
  | .not _ =>
    obtain ⟨_, _, rfl⟩ := Expr.evaluate_not_ok.mp evaluated
    cases plain
  | .arithmetic left right =>
    obtain ⟨a, b, first, last, decided⟩ := Expr.evaluate_arithmetic_ok.mp evaluated
    have operands := Arithmetic.operands_plain decided plain
    have firstOther := left.evaluate_plain rfl first operands.1
    have lastOther := right.evaluate_plain rfl last operands.2
    exact Expr.evaluate_arithmetic_ok.mpr ⟨a, b, firstOther, lastOther, decided⟩
  | @Alike.call _ method _ _ _ _ receiver rest =>
    cases method with
    | test kind =>
      rw [Expr.evaluate_test_plain evaluated] at plain
      cases plain
    | apply function =>
      obtain ⟨a, inner, applied⟩ := Expr.evaluate_apply_ok.mp evaluated
      have innerOther := receiver.evaluate_plain rfl inner (Value.receiver_plain applied plain)
      exact Expr.evaluate_apply_ok.mpr ⟨a, innerOther, applied⟩
    | round =>
      obtain ⟨a, inner, ⟨_, rfl⟩ | ⟨present, places, counted, rounded⟩⟩ :=
        Expr.evaluate_round_ok.mp evaluated
      · cases plain
      · have innerOther := receiver.evaluate_plain rfl inner (Value.rounded_plain rounded)
        match rest with
        | .nil => cases counted
        | .cons digits _ =>
          have countedOther := digits.evaluate_plain rfl counted rfl
          exact Expr.evaluate_round_ok.mpr
            ⟨a, innerOther, .inr ⟨present, places, countedOther, rounded⟩⟩
    | average =>
      rw [Expr.evaluate] at evaluated ⊢
      obtain ⟨free, averaged⟩ := Expr.average_congr evaluated
      rwa [← receiver.eq_of_free rfl free]

end TypedSql
