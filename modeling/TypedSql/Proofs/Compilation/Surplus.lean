import TypedSql.Proofs.Compilation.Columns
import TypedSql.Proofs.Evaluation.Success

namespace TypedSql

/-- A list made of two others, the elements of each in their order. -/
inductive Interleaved {α : Type} : List α → List α → List α → Prop where
  | nil : Interleaved [] [] []
  | left {a : α} {first second whole : List α} (rest : Interleaved first second whole) :
      Interleaved (a :: first) second (a :: whole)
  | right {a : α} {first second whole : List α} (rest : Interleaved first second whole) :
      Interleaved first (a :: second) (a :: whole)

namespace Interleaved

variable {α β : Type} {first second whole : List α}

theorem length (made : Interleaved first second whole) :
    whole.length = first.length + second.length := by
  induction made with
  | nil => rfl
  | left _ ih | right _ ih =>
    simp only [List.length_cons, ih]
    omega

theorem append {first' second' whole' : List α} (front : Interleaved first second whole)
    (back : Interleaved first' second' whole') :
    Interleaved (first ++ first') (second ++ second') (whole ++ whole') := by
  induction front with
  | nil => exact back
  | left _ ih => exact .left ih
  | right _ ih => exact .right ih

theorem onlyRight (items : List α) : Interleaved [] items items := by
  induction items with
  | nil => exact .nil
  | cons a rest ih => exact .right ih

theorem inOrder (first second : List α) : Interleaved first second (first ++ second) := by
  induction first with
  | nil => exact .onlyRight second
  | cons a rest ih => exact .left ih

theorem flatMap {γ : Type} {R : β → γ → Prop} {f g h : β → List α} {items : List β}
    {others : List γ} (related : List.Forall₂ R items others)
    (each : ∀ b c, R b c → Interleaved (f b) (g b) (h b)) :
    Interleaved (items.flatMap f) (items.flatMap g) (items.flatMap h) := by
  induction related with
  | nil => exact .nil
  | cons first _ ih =>
    simp only [List.flatMap_cons]
    exact (each _ _ first).append ih

theorem eq_of_nil (made : Interleaved first [] whole) : first = whole := by
  generalize none : ([] : List α) = second at made
  induction made with
  | nil => rfl
  | left _ ih => rw [ih none]
  | right => cases none

end Interleaved

/-- How many arguments a method takes. -/
def Method.arity : Method → Nat
  | test kind => kind.arity
  | round => 1
  | apply _ | average => 0

/-- Whether a call is a test for membership in the empty list, which is about nothing. -/
def Method.isInNothing : Method → List Expr → Bool
  | test .isIn, [.list []] => true
  | _, _ => false

namespace Expr

mutual

/-- The columns that an expression names from left to right, but for what it tests for membership
in the empty list. -/
def namedColumns : Expr → List ColumnRef
  | column reference => [reference]
  | literal _ => []
  | list items => namedColumnsOf items
  | compare _ left right | connect _ left right | arithmetic _ left right =>
    left.namedColumns ++ right.namedColumns
  | not inner => inner.namedColumns
  | call method receiver arguments =>
    (if method.isInNothing arguments then [] else receiver.namedColumns) ++
      namedColumnsOf arguments

def namedColumnsOf : List Expr → List ColumnRef
  | [] => []
  | first :: rest => first.namedColumns ++ namedColumnsOf rest

end

mutual

/-- The columns that an expression names in arguments beyond those that a method takes. -/
def surplusColumns : Expr → List ColumnRef
  | column _ | literal _ => []
  | list items => surplusColumnsOf items.length items
  | compare _ left right | connect _ left right | arithmetic _ left right =>
    left.surplusColumns ++ right.surplusColumns
  | not inner => inner.surplusColumns
  | call method receiver arguments =>
    (if method.isInNothing arguments then [] else receiver.surplusColumns) ++
      surplusColumnsOf method.arity arguments

/-- Those of a list of which a number of items are taken. -/
def surplusColumnsOf : Nat → List Expr → List ColumnRef
  | _, [] => []
  | 0, first :: rest => first.namedColumns ++ surplusColumnsOf 0 rest
  | taken + 1, first :: rest => first.surplusColumns ++ surplusColumnsOf taken rest

end

theorem namedColumnsOf_eq_flatMap (items : List Expr) :
    namedColumnsOf items = items.flatMap namedColumns := by
  induction items with
  | nil => simp [namedColumnsOf]
  | cons first rest ih => simp [namedColumnsOf, ih]

@[simp] theorem surplusColumnsOf_zero (items : List Expr) :
    surplusColumnsOf 0 items = namedColumnsOf items := by
  induction items with
  | nil => simp [surplusColumnsOf, namedColumnsOf]
  | cons first rest ih => simp [surplusColumnsOf, namedColumnsOf, ih]

@[simp] theorem surplusColumnsOf_length (items : List Expr) :
    surplusColumnsOf items.length items = items.flatMap surplusColumns := by
  induction items with
  | nil => simp [surplusColumnsOf]
  | cons first rest ih => simp [surplusColumnsOf, ih]

mutual

theorem named_of_free : (expr : Expr) → expr.isBound = false →
    expr.namedColumns = [] ∧ expr.surplusColumns = []
  | column _, free => by cases free
  | literal _, _ => by simp [namedColumns, surplusColumns]
  | list items, free => by
    simpa [namedColumns, surplusColumns] using namedOf_of_free items items.length free
  | compare _ left right, free | connect _ left right, free | arithmetic _ left right, free => by
    obtain ⟨freeLeft, freeRight⟩ := Bool.or_eq_false_iff.mp free
    simp [namedColumns, surplusColumns, named_of_free left freeLeft,
      named_of_free right freeRight]
  | not inner, free => by simpa [namedColumns, surplusColumns] using named_of_free inner free
  | call method receiver arguments, free => by
    obtain ⟨freeReceiver, freeArguments⟩ := Bool.or_eq_false_iff.mp free
    simp [namedColumns, surplusColumns, named_of_free receiver freeReceiver,
      namedOf_of_free arguments method.arity freeArguments]

theorem namedOf_of_free : (items : List Expr) → (taken : Nat) → anyBound items = false →
    namedColumnsOf items = [] ∧ surplusColumnsOf taken items = []
  | [], _, _ => by simp [namedColumnsOf, surplusColumnsOf]
  | first :: rest, taken, free => by
    obtain ⟨freeFirst, freeRest⟩ := Bool.or_eq_false_iff.mp free
    have head := named_of_free first freeFirst
    refine ⟨by simp [namedColumnsOf, head, namedOf_of_free rest 0 freeRest], ?_⟩
    cases taken with
    | zero => simp [namedColumnsOf, head, namedOf_of_free rest 0 freeRest]
    | succ taken => simp [surplusColumnsOf, head, namedOf_of_free rest taken freeRest]

end

end Expr

namespace Value

/-- Neither null nor a truth value, which are known at times without all that they are made of. -/
def isScalar : Value → Bool
  | null | bool _ => false
  | _ => true

theorem isScalar_of_numeric {value : Value} {number : Numeric}
    (isNumber : Numeric.ofValue? value = some number) : value.isScalar = true := by
  cases value with
  | null | bool _ => cases isNumber
  | _ => rfl

theorem isScalar_of_applied {function : Function} {value result : Value}
    (applied : value.applied function = .ok result) (scalar : result.isScalar = true) :
    value.isScalar = true := by
  cases value with
  | null =>
    cases applied
    cases scalar
  | bool truth => cases function <;> cases applied
  | _ => rfl

theorem isScalar_of_rounded {places : Int} {value result : Value}
    (rounded : value.round places = .ok result) : value.isScalar = true := by
  unfold round at rounded
  split at rounded
  · cases rounded
  · rename_i number isNumber
    exact isScalar_of_numeric isNumber

theorem isScalar_of_calculated {operator : Arithmetic} {left right result : Value}
    (calculated : operator.decide left right = .ok result) (scalar : result.isScalar = true) :
    left.isScalar = true ∧ right.isScalar = true := by
  unfold Arithmetic.decide at calculated
  split at calculated
  · cases calculated
    cases scalar
  · split at calculated
    · exact ⟨rfl, rfl⟩
    · split at calculated
      · rename_i isLeft isRight
        exact ⟨isScalar_of_numeric isLeft, isScalar_of_numeric isRight⟩
      · cases calculated

end Value

namespace Expr

theorem bool_of_evaluate_test {kind : Test} {receiver : Expr} {arguments : List Expr}
    {value : Value} (evaluated : (call (.test kind) receiver arguments).evaluate = .ok value) :
    ∃ truth, .bool truth = value := by
  cases kind with
  | between =>
    obtain ⟨_, _, _, truth, _, _, _, _, same⟩ := evaluate_between_ok.mp evaluated
    exact ⟨truth, same⟩
  | isIn =>
    obtain ⟨_, truth, _, _, same⟩ := evaluate_isIn_ok.mp evaluated
    exact ⟨truth, same⟩
  | _ =>
    obtain ⟨_, _, truth, _, _, _, same⟩ :=
      (evaluate_test_ok (by decide) (by decide)).mp evaluated
    exact ⟨truth, same⟩

mutual

/-- What evaluates to a scalar has been evaluated as a whole, and columns have no value: none is
named but in surplus arguments. -/
theorem named_eq_surplus : (expr : Expr) → {value : Value} → expr.evaluate = .ok value →
    value.isScalar = true → expr.namedColumns = expr.surplusColumns
  | column _, _, evaluated, _ | list _, _, evaluated, _ => by cases evaluated
  | literal _, _, _, _ => by simp [namedColumns, surplusColumns]
  | not _, _, evaluated, scalar => by
    obtain ⟨truth, _, rfl⟩ := evaluate_not_ok.mp evaluated
    cases scalar
  | connect _ _ _, _, evaluated, scalar => by
    obtain ⟨truth, _, rfl⟩ := evaluate_connect_ok.mp evaluated
    cases scalar
  | compare _ _ _, _, evaluated, scalar => by
    obtain ⟨_, _, truth, _, _, _, rfl⟩ := evaluate_compare_ok.mp evaluated
    cases scalar
  | arithmetic _ left right, _, evaluated, scalar => by
    obtain ⟨a, b, first, second, calculated⟩ := evaluate_arithmetic_ok.mp evaluated
    obtain ⟨scalarLeft, scalarRight⟩ := Value.isScalar_of_calculated calculated scalar
    simp only [namedColumns, surplusColumns, named_eq_surplus left first scalarLeft,
      named_eq_surplus right second scalarRight]
  | call method receiver arguments, _, evaluated, scalar => by
    cases method with
    | apply function =>
      obtain ⟨a, first, applied⟩ := evaluate_apply_ok.mp evaluated
      have inner := named_eq_surplus receiver first (Value.isScalar_of_applied applied scalar)
      simp [namedColumns, surplusColumns, Method.isInNothing, Method.arity, inner]
    | round =>
      obtain ⟨a, first, ⟨_, rfl⟩ | ⟨_, places, digits, rounded⟩⟩ := evaluate_round_ok.mp evaluated
      · cases scalar
      · have inner := named_eq_surplus receiver first (Value.isScalar_of_rounded rounded)
        simp [namedColumns, surplusColumns, Method.isInNothing, Method.arity, inner,
          namedOf_eq_surplusOf arguments digits rfl]
    | average =>
      have free : receiver.isBound = false := by
        cases receiver with
        | list items =>
          simp only [evaluate, average] at evaluated
          split at evaluated
          · cases evaluated
          · rename_i free
            simpa [isBound] using free
        | _ => cases evaluated
      simp [namedColumns, surplusColumns, Method.isInNothing, Method.arity,
        named_of_free receiver free]
    | test kind =>
      obtain ⟨truth, rfl⟩ := bool_of_evaluate_test evaluated
      cases scalar

theorem namedOf_eq_surplusOf {expr : Expr} : (items : List Expr) → {value : Value} →
    argument expr items 0 = .ok value → value.isScalar = true →
    namedColumnsOf items = surplusColumnsOf 1 items
  | [], _, _, _ => by simp [namedColumnsOf, surplusColumnsOf]
  | first :: rest, _, evaluated, scalar => by
    simp [namedColumnsOf, surplusColumnsOf, named_eq_surplus first evaluated scalar]

end

end Expr

section

variable {scope : Scope}

theorem OperandIn.named {expr : Expr} {operand : Operand}
    (compiled : OperandIn scope expr operand) :
    Interleaved expr.stem expr.surplusColumns expr.namedColumns := by
  induction compiled with
  | column resolved =>
    simp only [Expr.stem, Expr.surplusColumns, Expr.namedColumns]
    exact .inOrder _ []
  | @apply function receiver arguments operand bound inner ih =>
    have both := ih.append (.onlyRight (Expr.namedColumnsOf arguments))
    simpa [Expr.stem, Expr.surplusColumns, Expr.namedColumns, Method.isInNothing, Method.arity]
      using both
  | @round receiver digits places operand bound counted inner ih =>
    have both := ih.append (.onlyRight digits.namedColumns)
    have evaluated := Expr.named_eq_surplus digits counted rfl
    simpa [Expr.stem, Expr.surplusColumns, Expr.namedColumns, Method.isInNothing, Method.arity,
      Expr.surplusColumnsOf, Expr.namedColumnsOf, evaluated] using both

theorem Expr.interleaved_of_free {expr : Expr} (free : expr.isBound = false) :
    Interleaved expr.stem expr.surplusColumns expr.namedColumns := by
  rw [Expr.stem_of_free free, (Expr.named_of_free expr free).1, (Expr.named_of_free expr free).2]
  exact .nil

theorem ArgumentIn.named {column : String} {change : Value → Value} {expr : Expr}
    {operand : Operand} (compiled : ArgumentIn scope column change expr operand) :
    Interleaved expr.stem expr.surplusColumns expr.namedColumns := by
  cases compiled with
  | stored bound inner => exact inner.named
  | value free evaluated present => exact Expr.interleaved_of_free free

theorem ArgumentIn.namedAll {column : String} {change : Value → Value} {items : List Expr}
    {operands : List Operand}
    (each : List.Forall₂ (ArgumentIn scope column change) items operands) :
    Interleaved (items.flatMap Expr.stem) (items.flatMap Expr.surplusColumns)
      (items.flatMap Expr.namedColumns) :=
  .flatMap each fun _ _ => ArgumentIn.named

theorem ComparisonIn.named {comparison : Comparison} {first other : Expr} {condition : Condition}
    (compiled : ComparisonIn scope comparison first other condition) :
    Interleaved first.stem first.surplusColumns first.namedColumns ∧
      Interleaved other.stem other.surplusColumns other.namedColumns := by
  cases compiled with
  | stored inner bound innerOther => exact ⟨inner.named, innerOther.named⟩
  | null inner free | value inner _ free => exact ⟨inner.named, Expr.interleaved_of_free free⟩

/-- What a clause names is what it is about and what stands in surplus arguments. -/
theorem ConditionIn.named {expr : Expr} {negated : Bool} {condition : Condition}
    (compiled : ConditionIn scope expr negated condition) :
    Interleaved (Clause.columns ⟨expr, negated⟩) expr.surplusColumns expr.namedColumns := by
  cases compiled with
  | constant free evaluated =>
    rw [Clause.columns_of_free free, (Expr.named_of_free expr free).1,
      (Expr.named_of_free expr free).2]
    exact .nil
  | column boolean resolved =>
    simp only [Clause.columns, Expr.surplusColumns, Expr.namedColumns]
    exact .inOrder _ []
  | compare bound compared =>
    simp only [Clause.columns, Expr.surplusColumns, Expr.namedColumns]
    exact compared.named.1.append compared.named.2
  | mirrored free bound compared =>
    simp only [Clause.columns, Expr.surplusColumns, Expr.namedColumns]
    exact compared.named.2.append compared.named.1
  | isInNothing bound inner =>
    simp [Clause.columns, Expr.surplusColumns, Expr.namedColumns, Method.isInNothing,
      Method.arity, Test.arity, Expr.surplusColumnsOf, Expr.namedColumnsOf, Interleaved.nil]
  | @isIn receiver items operand operands reference _ member filled inner each =>
    have both := inner.named.append (ArgumentIn.namedAll each)
    cases items with
    | nil => exact (filled rfl).elim
    | cons first rest =>
      simpa [Clause.columns, Expr.surplusColumns, Expr.namedColumns, Method.isInNothing,
        Method.arity, Test.arity, Expr.surplusColumnsOf, Expr.namedColumnsOf,
        Expr.namedColumnsOf_eq_flatMap] using both
  | @test kind receiver arguments operand operands reference _ other arity member inner each =>
    have both := inner.named.append (ArgumentIn.namedAll each)
    have taken : Expr.surplusColumnsOf kind.arity arguments =
        arguments.flatMap Expr.surplusColumns := by
      rw [← arity, Expr.surplusColumnsOf_length]
    cases kind with
    | isIn => exact (other rfl).elim
    | _ =>
      simpa [Clause.columns, Expr.surplusColumns, Expr.namedColumns, Method.isInNothing,
        Method.arity, taken, Expr.namedColumnsOf_eq_flatMap] using both

/-- A test of columns that is compiled has the arguments that it takes. -/
theorem ConditionIn.argumentCount {kind : Test} {receiver : Expr} {arguments : List Expr}
    {negated : Bool} {condition : Condition}
    (bound : (Expr.call (.test kind) receiver arguments).isBound = true)
    (compiled : ConditionIn scope (.call (.test kind) receiver arguments) negated condition) :
    arguments.length = kind.arity := by
  cases compiled with
  | constant free evaluated =>
    rw [bound] at free
    cases free
  | isInNothing bound inner => rfl
  | isIn member filled inner each => rfl
  | test other arity member inner each => exact arity

namespace Expr

/-- A predicate is about the columns that its expression names, except for those in surplus
arguments. -/
theorem compile_named {expr : Expr} {before after : Parameters} {predicate : Predicate}
    (compiled : expr.compile scope before = (.ok predicate, after)) :
    Interleaved expr.storedColumns expr.surplusColumns expr.namedColumns := by
  obtain ⟨tree, _, related, _⟩ := compile_ok compiled
  rw [← flatMap_clauses namedColumns (fun _ => by rw [namedColumns])
      (fun _ _ _ => by rw [namedColumns]) expr false,
    ← flatMap_clauses surplusColumns (fun _ => by rw [surplusColumns])
      (fun _ _ _ => by rw [surplusColumns]) expr false]
  exact .flatMap related.leaves fun _ _ => ConditionIn.named

end Expr

end

end TypedSql
