import TypedSql.Proofs.Compilation.Columns
import TypedSql.Proofs.Typing.Values

namespace TypedSql.Expr

/-- What an expression is directly made of. -/
@[simp] def operands : Expr → List Expr
  | column _ | literal _ => []
  | list items => items
  | compare _ left right | connect _ left right | arithmetic _ left right => [left, right]
  | not inner => [inner]
  | call _ receiver arguments => receiver :: arguments

/-- The parts of an expression at any depth, itself among them. -/
inductive Contains (whole : Expr) : Expr → Prop where
  | self : Contains whole whole
  | operand {expr operand : Expr} (within : Contains whole expr)
      (listed : operand ∈ expr.operands) : Contains whole operand

theorem columns_of_operand {expr operand : Expr} (listed : operand ∈ expr.operands) :
    operand.columns ⊆ expr.columns := by
  intro reference member
  cases expr with
  | column | literal => cases listed
  | list items =>
    rw [columns, columnsOf_eq_flatMap]
    exact List.mem_flatMap.mpr ⟨operand, listed, member⟩
  | compare _ left right | connect _ left right | arithmetic _ left right =>
    simp only [operands, List.mem_cons, List.not_mem_nil, or_false] at listed
    rw [columns, List.mem_append]
    rcases listed with rfl | rfl
    · exact .inl member
    · exact .inr member
  | not inner =>
    rw [List.mem_singleton.mp listed] at member
    exact member
  | call method receiver arguments =>
    rw [columns, columnsOf_eq_flatMap, List.mem_append]
    rcases List.mem_cons.mp listed with rfl | listed
    · exact .inl member
    · exact .inr (List.mem_flatMap.mpr ⟨operand, listed, member⟩)

theorem Contains.columns {whole expr : Expr} (within : whole.Contains expr) :
    expr.columns ⊆ whole.columns := by
  induction within with
  | self => exact List.Subset.refl _
  | operand _ listed ih => exact List.Subset.trans (columns_of_operand listed) ih

/-- The error says of a part of the expression why it is refused. -/
def Refuses (whole : Expr) (error : Error) : Prop :=
  ∃ part reason, whole.Contains part ∧ error = .unsupported part reason

/-- A step that fails, if it does, by refusing a part of the expression. -/
def FailsInside {α : Type} (whole : Expr) (step : Except Error α) : Prop :=
  Except.Safe whole.Refuses (fun _ => True) step

variable {α β : Type} {whole expr : Expr}

theorem FailsInside.bind {step : Except Error α} {next : α → Except Error β}
    (first : whole.FailsInside step) (rest : ∀ a, whole.FailsInside (next a)) :
    whole.FailsInside (step >>= next) :=
  Except.Safe.bind first fun a _ _ => rest a

namespace Contains

variable (within : whole.Contains expr)

include within

theorem refuses (reason : Unsupported) : whole.Refuses (.unsupported expr reason) :=
  ⟨expr, reason, within, rfl⟩

theorem step (result : Except Unsupported α) : whole.FailsInside (expr.step result) := by
  cases result with
  | error reason => exact within.refuses reason
  | ok a => trivial

theorem asBool (value : Value) : whole.FailsInside (expr.asBool value) := by
  unfold Expr.asBool
  split
  · trivial
  · exact within.refuses .notBoolean

end Contains

mutual

/-- Whatever part of an expression is evaluated, what is refused is a part of the expression. -/
theorem evaluate_failsInside : (expr : Expr) → whole.Contains expr →
    whole.FailsInside expr.evaluate
  | literal _, _ => trivial
  | column _, within => within.refuses .columnAsLiteral
  | list _, within => within.refuses .strayList
  | not inner, within => by
    have withinInner : whole.Contains inner := within.operand (by simp)
    exact (evaluate_failsInside inner withinInner).bind fun value =>
      (withinInner.asBool value).bind fun _ => trivial
  | connect connective left right, within => by
    have withinLeft : whole.Contains left := within.operand (by simp)
    have withinRight : whole.Contains right := within.operand (by simp)
    refine (evaluate_failsInside left withinLeft).bind fun a =>
      (withinLeft.asBool a).bind fun first => ?_
    split
    · trivial
    · exact (evaluate_failsInside right withinRight).bind fun b =>
        (withinRight.asBool b).bind fun _ => trivial
  | compare comparison left right, within =>
    (evaluate_failsInside left (within.operand (by simp))).bind fun a =>
      (evaluate_failsInside right (within.operand (by simp))).bind fun b =>
        (within.step (comparison.decide a b)).bind fun _ => trivial
  | arithmetic operator left right, within =>
    (evaluate_failsInside left (within.operand (by simp))).bind fun a =>
      (evaluate_failsInside right (within.operand (by simp))).bind fun b =>
        within.step (operator.decide a b)
  | call method receiver arguments, within => by
    have inner := evaluate_failsInside receiver (within.operand (by simp))
    have each : ∀ argument ∈ arguments, whole.Contains argument := fun _ listed =>
      within.operand (by simp [listed])
    cases method with
    | average => exact average_failsInside _ within receiver (within.operand (by simp))
    | apply function =>
      refine inner.bind fun value => ?_
      split
      · trivial
      · exact within.step (value.apply function)
    | round =>
      refine inner.bind fun value => ?_
      split
      · trivial
      · refine (argument_failsInside _ within arguments each 0).bind fun places => ?_
        split
        · exact within.step _
        · exact within.refuses .roundDigitsNotInt32
    | test kind =>
      have argument (index : Nat) := argument_failsInside _ within arguments each index
      cases kind with
      | between =>
        exact inner.bind fun value => (argument 0).bind fun low => (argument 1).bind fun high =>
          (within.step (Test.decideBetween value low high)).bind fun _ => trivial
      | isIn =>
        exact inner.bind fun value =>
          (membership_failsInside _ within value arguments each).bind fun _ => trivial
      | contains | startsWith | endsWith | after | before | matchesPattern =>
        exact inner.bind fun value => (argument 0).bind fun other =>
          (within.step (Test.decideOne _ value other)).bind fun _ => trivial

termination_by structural expr => expr

theorem argument_failsInside (expr : Expr) (within : whole.Contains expr) :
    (arguments : List Expr) → (∀ argument ∈ arguments, whole.Contains argument) → (index : Nat) →
    whole.FailsInside (argument expr arguments index)
  | [], _, _ => within.refuses .missingArgument
  | first :: _, each, 0 => evaluate_failsInside first (List.forall_mem_cons.mp each).1
  | _ :: rest, each, index + 1 =>
    argument_failsInside expr within rest (List.forall_mem_cons.mp each).2 index

termination_by structural arguments => arguments

theorem membership_failsInside (expr : Expr) (within : whole.Contains expr) (value : Value) :
    (arguments : List Expr) → (∀ argument ∈ arguments, whole.Contains argument) →
    whole.FailsInside (membership expr value arguments)
  | [], _ => within.refuses .missingArgument
  | first :: _, each =>
    hasItem_failsInside expr within value first (List.forall_mem_cons.mp each).1

termination_by structural arguments => arguments

theorem hasItem_failsInside (expr : Expr) (within : whole.Contains expr) (value : Value) :
    (first : Expr) → whole.Contains first → whole.FailsInside (hasItem expr value first)
  | list items, own =>
    anyEqual_failsInside expr within value items fun _ listed => own.operand listed
  | column _, _ | literal _, _ | compare .., _ | connect .., _ | arithmetic .., _ | not _, _
  | call .., _ => within.refuses .listExpected

termination_by structural first => first

theorem anyEqual_failsInside (expr : Expr) (within : whole.Contains expr) (value : Value) :
    (items : List Expr) → (∀ item ∈ items, whole.Contains item) →
    whole.FailsInside (anyEqual expr value items)
  | [], _ => trivial
  | first :: rest, each => by
    obtain ⟨own, others⟩ := List.forall_mem_cons.mp each
    refine (evaluate_failsInside first own).bind fun item =>
      (within.step (Comparison.decide .equal value item)).bind fun same => ?_
    split
    · trivial
    · exact anyEqual_failsInside expr within value rest others

termination_by structural items => items

theorem average_failsInside (expr : Expr) (within : whole.Contains expr) :
    (receiver : Expr) → whole.Contains receiver → whole.FailsInside (average expr receiver)
  | list items, own => by
    rw [average]
    split
    · exact within.refuses .averageOverColumns
    · exact averageOf_failsInside expr within items (fun _ listed => own.operand listed) 0 0
  | column _, _ | literal _, _ | compare .., _ | connect .., _ | arithmetic .., _ | not _, _
  | call .., _ => within.refuses .averageOfNonList

termination_by structural receiver => receiver

theorem averageOf_failsInside (expr : Expr) (within : whole.Contains expr) :
    (items : List Expr) → (∀ item ∈ items, whole.Contains item) → (sum : Float) →
    (count : Nat) → whole.FailsInside (averageOf expr items sum count)
  | [], _, _, _ => trivial
  | first :: rest, each, sum, count => by
    obtain ⟨own, others⟩ := List.forall_mem_cons.mp each
    refine (evaluate_failsInside first own).bind fun value => ?_
    split
    · exact averageOf_failsInside expr within rest others sum count
    · split
      · exact averageOf_failsInside expr within rest others _ _
      · exact within.refuses .averageOfNonNumbers

termination_by structural items => items

end

end TypedSql.Expr
