import TypedSql.Expr.Filter
import TypedSql.Proofs.Evaluation.Success
import TypedSql.Proofs.Typing.Scalars

namespace TypedSql

/-- A value of the kind that a condition has. -/
def Value.IsTruth (value : Value) : Prop :=
  ∃ truth, value = .bool truth

theorem Expr.evaluateBool_safe {expr : Expr} {allowed : Error → Prop}
    (safe : Except.Safe allowed Value.IsTruth expr.evaluate) :
    Except.Safe allowed (fun _ => True) expr.evaluateBool := by
  refine safe.bind fun value _ isTruth => ?_
  obtain ⟨truth, rfl⟩ := isTruth
  trivial

namespace Test

variable {type : FieldType} {value low high other : Value}

theorem decideBetween_safe (fits : value.Fits type) (fitsLow : low.Fits type)
    (fitsHigh : high.Fits type) :
    Except.Safe (fun reason => reason = .orderingWithNull) (fun _ => True)
      (decideBetween value low high) := by
  have ordered : ∀ comparison : Comparison, ∀ bound : Value, bound.Fits type →
      Except.Safe (fun reason => reason = .orderingWithNull) (fun _ => True)
        (comparison.decide value bound) := fun comparison bound fitsBound =>
    (Comparison.decide_safe fits fitsBound).weaken fun reason failed => failed.1
  refine (ordered .greaterOrEqual low fitsLow).bind fun truth _ _ => ?_
  split
  · exact ordered .lessOrEqual high fitsHigh
  · trivial

/-- How a test of a value against another one of its type, or against a text, can fail. -/
def OneRefused (value : Value) : Unsupported → Prop
  | .orderingWithNull | .invalidPattern => True
  | .textMethodOnNonText => value = .null
  | _ => False

theorem asText_safe (textual : value.Fits .string) :
    Except.Safe (OneRefused value) (fun _ => True) value.asText :=
  (Value.asText_safe textual).weaken fun reason failed => by
    obtain ⟨rfl, null⟩ := failed
    exact null

theorem decideOne_text_safe {test : Test} (ofText : test ≠ .after ∧ test ≠ .before)
    (textual : value.Fits .string) (isText : other.fieldType? = some .string) :
    Except.Safe (OneRefused value) (fun _ => True) (test.decideOne value other) := by
  obtain ⟨text, read⟩ := Value.exists_asText isText
  have readOther : Except.Safe (OneRefused value) (fun _ => True) other.asText := by
    rw [read]
    trivial
  cases test with
  | after => exact (ofText.1 rfl).elim
  | before => exact (ofText.2 rfl).elim
  | matchesPattern =>
    refine readOther.bind fun pattern _ _ => ?_
    split
    · exact (asText_safe textual).bind fun text _ _ => trivial
    · trivial
  | contains | startsWith | endsWith | between | isIn =>
    exact (asText_safe textual).bind fun text _ _ => readOther.bind fun other _ _ => trivial

theorem decideOne_sequence_safe (kind : Sequence) (fits : value.Fits type)
    (fitsOther : other.Fits type) :
    Except.Safe (OneRefused value) (fun _ => True) (kind.test.decideOne value other) := by
  cases kind with
  | after | before =>
    refine (Comparison.decide_safe fits fitsOther).weaken fun reason failed => ?_
    rw [failed.1]
    trivial

end Test

theorem Search.test_single (kind : Search) :
    (kind.test ≠ .between ∧ kind.test ≠ .isIn) ∧ (kind.test ≠ .after ∧ kind.test ≠ .before) ∧
      kind.test.arity = 1 := by
  cases kind <;> decide

theorem Sequence.test_single (kind : Sequence) :
    (kind.test ≠ .between ∧ kind.test ≠ .isIn) ∧ kind.test.arity = 1 := by
  cases kind <;> decide

namespace Expr

variable {type : FieldType} {receiver left right low high argument : Expr}

theorem compare_safe (comparison : Comparison)
    (first : Except.Safe Error.IsRefusal (Value.Fits type) left.evaluate)
    (second : Except.Safe Error.IsRefusal (Value.Fits type) right.evaluate) :
    Except.Safe Error.IsRefusal Value.IsTruth (compare comparison left right).evaluate := by
  rw [evaluate]
  refine first.bind fun a _ fits => second.bind fun b _ fitsOther => ?_
  refine Except.Safe.bind (Except.Safe.step (Comparison.decide_safe fits fitsOther) ?_)
    fun truth _ _ => ⟨truth, rfl⟩
  intro reason failed
  rw [failed.1]
  exact .orderingWithNull

theorem between_safe (inner : Except.Safe Error.IsRefusal (Value.Fits type) receiver.evaluate)
    (first : Except.Safe Error.IsRefusal (Value.Fits type) low.evaluate)
    (second : Except.Safe Error.IsRefusal (Value.Fits type) high.evaluate) :
    Except.Safe Error.IsRefusal Value.IsTruth
      (call (.test .between) receiver [low, high]).evaluate := by
  rw [evaluate]
  refine inner.bind fun value _ fits => first.bind fun a _ fitsLow =>
    second.bind fun b _ fitsHigh => ?_
  refine Except.Safe.bind (Except.Safe.step (Test.decideBetween_safe fits fitsLow fitsHigh) ?_)
    fun truth _ _ => ⟨truth, rfl⟩
  intro reason failed
  rw [failed]
  exact .orderingWithNull

theorem anyEqual_safe (expr : Expr) {value : Value} {items : List Expr} (fits : value.Fits type)
    (each : ∀ item ∈ items, Except.Safe Error.IsRefusal (Value.Fits type) item.evaluate) :
    Except.Safe Error.IsRefusal (fun _ => True) (anyEqual expr value items) := by
  induction items with
  | nil => trivial
  | cons first rest ih =>
    have others := ih fun item member => each item (List.mem_cons_of_mem first member)
    rw [anyEqual]
    refine (each first (by simp)).bind fun item _ fitsItem => ?_
    refine Except.Safe.bind (Except.Safe.step (Comparison.decide_safe fits fitsItem) ?_)
      fun same _ _ => ?_
    · intro reason failed
      rw [failed.1]
      exact .orderingWithNull
    · split
      · trivial
      · exact others

theorem isIn_safe {items : List Expr}
    (inner : Except.Safe Error.IsRefusal (Value.Fits type) receiver.evaluate)
    (each : ∀ item ∈ items, Except.Safe Error.IsRefusal (Value.Fits type) item.evaluate) :
    Except.Safe Error.IsRefusal Value.IsTruth
      (call (.test .isIn) receiver [list items]).evaluate := by
  rw [evaluate]
  refine inner.bind fun value _ fits => ?_
  exact (anyEqual_safe _ fits each).bind fun truth _ _ => ⟨truth, rfl⟩

/-- A test with one argument fails as its decision does. -/
theorem test_safe {kind : Test} {post other : Value → Prop} (noRange : kind ≠ .between)
    (noList : kind ≠ .isIn) (inner : Except.Safe Error.IsRefusal post receiver.evaluate)
    (first : Except.Safe Error.IsRefusal other argument.evaluate)
    (decided : ∀ a b, post a → other b →
      Except.Safe (Test.OneRefused a) (fun _ => True) (kind.decideOne a b)) :
    Except.Safe Error.IsRefusal Value.IsTruth
      (call (.test kind) receiver [argument]).evaluate := by
  rw [evaluate]
  · refine inner.bind fun value evaluated holds => first.bind fun b _ holdsOther => ?_
    refine Except.Safe.bind (Except.Safe.step (decided value b holds holdsOther) ?_)
      fun truth _ _ => ⟨truth, rfl⟩
    intro reason failed
    cases reason with
    | orderingWithNull => exact .orderingWithNull
    | invalidPattern => exact .invalidPattern
    | textMethodOnNonText => exact .textOfNull (evaluated.trans (congrArg _ failed))
    | _ => exact failed.elim
  · exact noRange
  · exact noList

end Expr

namespace Scalar

variable {table : Table} {type : ColumnType}

theorem evaluate_present (scalar : Scalar table type) (required : type = ⟨.string, false⟩)
    {value : Value} (evaluated : scalar.expr.evaluate = .ok value) : value.isNull = false := by
  induction scalar generalizing value with
  | column name => cases evaluated
  | literal own admitted =>
    cases evaluated
    subst required
    cases own <;> first | rfl | cases admitted
  | @apply type function argument accepted ih =>
    rw [expr] at evaluated
    obtain ⟨inner, evaluatedInner, applied⟩ := Expr.evaluate_apply_ok.mp evaluated
    cases function with
    | upper | lower | trim =>
      have present := ih required evaluatedInner
      rw [Value.applied, present, Value.apply] at applied
      obtain ⟨text, _, rfl⟩ := Except.map_ok.mp applied
      rfl
    | abs =>
      change type = ⟨.string, false⟩ at required
      subst required
      cases accepted
    | length | year | month | day => cases required
  | round argument places numeric =>
    subst required
    cases numeric
  | arithmetic operator left right numeric =>
    subst required
    cases numeric
  | average => cases required

theorem text_safe (scalar : Scalar table ⟨.string, false⟩) (free : scalar.expr.isBound = false) :
    Except.Safe Error.IsRefusal (fun value => value.fieldType? = some .string)
      scalar.expr.evaluate := by
  have safe := scalar.evaluate_safe free
  cases evaluated : scalar.expr.evaluate with
  | error error =>
    rw [evaluated] at safe
    exact safe
  | ok value =>
    rw [evaluated] at safe
    have present := scalar.evaluate_present rfl evaluated
    exact safe.present (by simp [present])

end Scalar

namespace Filter

variable {table : Table}

/-- A filter that is neither connected nor negated. -/
def IsSingle : Filter table → Prop
  | connect .. | not _ => False
  | _ => True

theorem evaluate_safe (filter : Filter table) (single : filter.IsSingle)
    (free : filter.expr.isBound = false) :
    Except.Safe Error.IsRefusal Value.IsTruth filter.expr.evaluate := by
  cases filter with
  | compare comparison left right =>
    simp only [expr, Expr.isBound, Bool.or_eq_false_iff] at free
    exact Expr.compare_safe comparison (left.evaluate_safe free.1) (right.evaluate_safe free.2)
  | isNull scalar | isNotNull scalar =>
    simp only [expr, Expr.isBound, Bool.or_false] at free
    exact Expr.compare_safe _ (scalar.evaluate_safe free) (.inl rfl)
  | between scalar low high =>
    simp only [expr, Expr.isBound, Expr.anyBound, Bool.or_false, Bool.or_eq_false_iff] at free
    exact Expr.between_safe (scalar.evaluate_safe free.1) (low.evaluate_safe free.2.1)
      (high.evaluate_safe free.2.2)
  | isIn scalar items =>
    simp only [expr, Expr.isBound, Expr.anyBound, Bool.or_false, Bool.or_eq_false_iff,
      Expr.anyBound_eq_any, List.any_eq_false] at free
    refine Expr.isIn_safe (scalar.evaluate_safe free.1) fun item member => ?_
    obtain ⟨own, _, rfl⟩ := List.mem_map.mp member
    exact own.evaluate_safe (by simpa using free.2 own.expr member)
  | search kind scalar textual part =>
    simp only [expr, Expr.isBound, Expr.anyBound, Bool.or_false, Bool.or_eq_false_iff] at free
    have isString := FieldType.eq_of_isTextual textual
    obtain ⟨⟨noRange, noList⟩, ofText, _⟩ := kind.test_single
    refine Expr.test_safe noRange noList (scalar.evaluate_safe free.1) (part.text_safe free.2)
      fun a b fits isText => ?_
    rw [isString] at fits
    exact Test.decideOne_text_safe ofText fits isText
  | matchesPattern scalar textual pattern =>
    simp only [expr, Expr.isBound, Expr.anyBound, Bool.or_false] at free
    have isString := FieldType.eq_of_isTextual textual
    have isText : Except.Safe Error.IsRefusal (fun value => value.fieldType? = some .string)
        (Expr.literal (.string pattern)).evaluate := rfl
    refine Expr.test_safe (by decide) (by decide) (scalar.evaluate_safe free) isText
      fun a b fits isText => ?_
    rw [isString] at fits
    exact Test.decideOne_text_safe (by decide) fits isText
  | sequence kind scalar moment temporal =>
    simp only [expr, Expr.isBound, Expr.anyBound, Bool.or_false, Bool.or_eq_false_iff] at free
    obtain ⟨⟨noRange, noList⟩, _⟩ := kind.test_single
    exact Expr.test_safe noRange noList (scalar.evaluate_safe free.1) (moment.evaluate_safe free.2)
      fun a b fits fitsOther => Test.decideOne_sequence_safe kind fits fitsOther
  | isTrue column => cases free
  | connect | not => exact single.elim

end Filter

end TypedSql
