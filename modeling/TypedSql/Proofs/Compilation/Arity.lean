import TypedSql.Proofs.Compilation.Surplus
import TypedSql.Proofs.Evaluation.Refusal

namespace TypedSql

namespace Expr

/-- Arguments beyond those that a method takes have no part in the value of a call. -/
theorem evaluate_take_arity {method : Method} {receiver : Expr} {arguments : List Expr}
    {value : Value} :
    (call method receiver (arguments.take method.arity)).evaluate = .ok value ↔
      (call method receiver arguments).evaluate = .ok value := by
  have kept (index : Nat) (within : index < method.arity) (value : Value) :
      argument (call method receiver (arguments.take method.arity))
          (arguments.take method.arity) index = .ok value ↔
        argument (call method receiver arguments) arguments index = .ok value :=
    argument_take within
  cases method with
  | apply function => rw [evaluate_apply_ok, evaluate_apply_ok]
  | average => exact ⟨fun found => (average_congr found).2, fun found => (average_congr found).2⟩
  | round =>
    rw [evaluate_round_ok, evaluate_round_ok]
    simp only [kept 0 Nat.one_pos]
  | test kind =>
    cases kind with
    | between =>
      rw [evaluate_between_ok, evaluate_between_ok]
      simp only [kept 0 Nat.two_pos, kept 1 Nat.one_lt_two]
    | isIn =>
      rw [evaluate_isIn_ok, evaluate_isIn_ok]
      exact exists_congr fun _ => exists_congr fun _ =>
        and_congr_right fun _ => and_congr_left fun _ => membership_take
    | contains | startsWith | endsWith | after | before | matchesPattern =>
      rw [evaluate_test_ok (by decide) (by decide), evaluate_test_ok (by decide) (by decide)]
      simp only [kept 0 Nat.one_pos]

mutual

/-- The calls with columns that an expression is compiled from, with their arguments. The arguments
of functions and roundings are not compiled. -/
def columnCalls : Expr → List (Method × List Expr)
  | column _ | literal _ => []
  | list items => columnCallsOf items
  | compare _ left right | connect _ left right | arithmetic _ left right =>
    left.columnCalls ++ right.columnCalls
  | not inner => inner.columnCalls
  | call method receiver arguments =>
    if receiver.isBound || anyBound arguments then
      (method, arguments) :: (receiver.columnCalls ++
        match method with
        | .test _ => columnCallsOf arguments
        | _ => [])
    else []

def columnCallsOf : List Expr → List (Method × List Expr)
  | [] => []
  | first :: rest => first.columnCalls ++ columnCallsOf rest

end

theorem columnCallsOf_eq_flatMap (items : List Expr) :
    columnCallsOf items = items.flatMap columnCalls := by
  induction items with
  | nil => simp [columnCallsOf]
  | cons first rest ih => simp [columnCallsOf, ih]

mutual

theorem columnCalls_of_free : (expr : Expr) → expr.isBound = false → expr.columnCalls = []
  | column _, free => by cases free
  | literal _, _ => by rw [columnCalls]
  | list items, free => by
    rw [columnCalls]
    exact columnCallsOf_of_free items free
  | compare _ left right, free | connect _ left right, free | arithmetic _ left right, free => by
    obtain ⟨freeLeft, freeRight⟩ := Bool.or_eq_false_iff.mp free
    rw [columnCalls, columnCalls_of_free left freeLeft, columnCalls_of_free right freeRight,
      List.append_nil]
  | not inner, free => by
    rw [columnCalls]
    exact columnCalls_of_free inner free
  | call method receiver arguments, free => by
    rw [isBound] at free
    simp [columnCalls, free]

theorem columnCallsOf_of_free : (items : List Expr) → anyBound items = false →
    columnCallsOf items = []
  | [], _ => by rw [columnCallsOf]
  | first :: rest, free => by
    obtain ⟨freeFirst, freeRest⟩ := Bool.or_eq_false_iff.mp free
    rw [columnCallsOf, columnCalls_of_free first freeFirst, columnCallsOf_of_free rest freeRest,
      List.append_nil]

end

/-- Calls with columns have as many arguments as their methods take, but for functions, whose
arguments are not looked at. -/
def Counted (expr : Expr) : Prop :=
  ∀ call ∈ expr.columnCalls, call.2.length = call.1.arity ∨ ∃ function, call.1 = .apply function

theorem counted_of_free {expr : Expr} (free : expr.isBound = false) : expr.Counted := by
  simp [Counted, columnCalls_of_free expr free]

theorem counted_append {expr left right : Expr}
    (calls : expr.columnCalls = left.columnCalls ++ right.columnCalls) (first : left.Counted)
    (last : right.Counted) : expr.Counted := by
  intro call member
  rw [calls, List.mem_append] at member
  exact member.elim (first call) (last call)

theorem counted_list {items : List Expr} (each : ∀ item ∈ items, item.Counted) :
    (list items).Counted := by
  intro call member
  rw [columnCalls, columnCallsOf_eq_flatMap] at member
  obtain ⟨item, listed, within⟩ := List.mem_flatMap.mp member
  exact each item listed call within

theorem counted_call {method : Method} {receiver : Expr} {arguments : List Expr}
    (own : arguments.length = method.arity ∨ ∃ function, method = .apply function)
    (inner : receiver.Counted)
    (each : ∀ kind, method = .test kind → ∀ argument ∈ arguments, argument.Counted) :
    (call method receiver arguments).Counted := by
  intro other member
  unfold columnCalls at member
  by_cases bound : receiver.isBound || anyBound arguments
  · rw [if_pos bound] at member
    rcases List.mem_cons.mp member with rfl | member
    · exact own
    · rcases List.mem_append.mp member with within | within
      · exact inner other within
      · split at within
        · exact counted_list (each _ rfl) other (by rwa [columnCalls])
        · cases within
  · rw [if_neg bound] at member
    cases member

end Expr

section

variable {scope : Scope}

theorem OperandIn.counted {expr : Expr} {operand : Operand}
    (compiled : OperandIn scope expr operand) : expr.Counted := by
  induction compiled with
  | column resolved => simp [Expr.Counted, Expr.columnCalls]
  | apply bound inner ih => exact Expr.counted_call (.inr ⟨_, rfl⟩) ih nofun
  | round bound counted inner ih => exact Expr.counted_call (.inl rfl) ih nofun

theorem ArgumentIn.counted {column : String} {change : Value → Value} {expr : Expr}
    {operand : Operand} (compiled : ArgumentIn scope column change expr operand) :
    expr.Counted := by
  cases compiled with
  | stored bound inner => exact inner.counted
  | value free evaluated present => exact Expr.counted_of_free free

theorem ArgumentIn.countedAll {column : String} {change : Value → Value} {items : List Expr}
    {operands : List Operand}
    (each : List.Forall₂ (ArgumentIn scope column change) items operands) :
    ∀ item ∈ items, item.Counted := by
  intro item member
  obtain ⟨place, inRange, rfl⟩ := List.getElem_of_mem member
  exact ArgumentIn.counted (each.get inRange (each.length_eq ▸ inRange))

theorem ComparisonIn.counted {comparison : Comparison} {first other : Expr}
    {condition : Condition} (compiled : ComparisonIn scope comparison first other condition) :
    first.Counted ∧ other.Counted := by
  cases compiled with
  | stored inner bound innerOther => exact ⟨inner.counted, innerOther.counted⟩
  | null inner free | value inner _ free => exact ⟨inner.counted, Expr.counted_of_free free⟩

theorem ConditionIn.counted {expr : Expr} {negated : Bool} {condition : Condition}
    (compiled : ConditionIn scope expr negated condition) : expr.Counted := by
  cases compiled with
  | constant free evaluated => exact Expr.counted_of_free free
  | column boolean resolved => simp [Expr.Counted, Expr.columnCalls]
  | compare bound compared =>
    exact Expr.counted_append (by rw [Expr.columnCalls]) compared.counted.1 compared.counted.2
  | mirrored free bound compared =>
    exact Expr.counted_append (by rw [Expr.columnCalls]) compared.counted.2 compared.counted.1
  | isInNothing bound inner =>
    refine Expr.counted_call (.inl rfl) inner.counted fun _ _ argument listed => ?_
    rw [List.mem_singleton.mp listed]
    exact Expr.counted_list nofun
  | isIn member filled inner each =>
    refine Expr.counted_call (.inl rfl) inner.counted fun _ _ argument listed => ?_
    rw [List.mem_singleton.mp listed]
    exact Expr.counted_list (ArgumentIn.countedAll each)
  | test other arity member inner each =>
    exact Expr.counted_call (.inl arity) inner.counted fun _ _ => ArgumentIn.countedAll each

namespace Expr

theorem compile_counted {expr : Expr} {before after : Parameters} {predicate : Predicate}
    (compiled : expr.compile scope before = (.ok predicate, after)) : expr.Counted := by
  obtain ⟨tree, _, related, _⟩ := compile_ok compiled
  intro call member
  rw [← flatMap_clauses columnCalls (fun _ => by rw [columnCalls])
    (fun _ _ _ => by rw [columnCalls]) expr false] at member
  obtain ⟨clause, listed, within⟩ := List.mem_flatMap.mp member
  obtain ⟨condition, _, clauseIn⟩ := related.flip.exists_left listed
  exact ConditionIn.counted clauseIn call within

end Expr

end

namespace Compile

/-- Whatever the arguments are, one alone is taken for the digits of a rounding. -/
theorem places_refused {whole receiver : Expr} {arguments : List Expr} {before : Parameters}
    (shape : whole = .call .round receiver arguments) (count : arguments.length ≠ 1) :
    ∃ error, places whole arguments before = (.error error, before) ∧ whole.Refuses error := by
  cases arguments with
  | nil => exact ⟨_, rfl, Expr.Contains.self.refuses .roundDigitsNotLiteral⟩
  | cons first rest =>
    have within : whole.Contains first := Expr.Contains.self.operand (by simp [shape])
    cases evaluated : first.evaluate with
    | error error =>
      have inside := Expr.evaluate_failsInside first within
      rw [evaluated] at inside
      refine ⟨error, bind_error.mpr (.inl ?_), inside⟩
      rw [evaluated]
      rfl
    | ok value =>
      refine ⟨_, bind_error.mpr (.inr ⟨value, before, lift_ok.mpr ⟨evaluated, rfl⟩, ?_⟩),
        Expr.Contains.self.refuses .roundDigitsNotLiteral⟩
      split
      · exact absurd rfl count
      · rfl

theorem round_refused {scope : Scope} {receiver : Expr} {arguments : List Expr}
    {before : Parameters} (count : arguments.length ≠ Method.round.arity) :
    ∃ error, operand scope (.call .round receiver arguments) before = (.error error, before) ∧
      (Expr.call .round receiver arguments).Refuses error := by
  obtain ⟨error, failed, refused⟩ := places_refused rfl count
  exact ⟨error, bind_error.mpr (.inl (map_error.mpr failed)), refused⟩

end Compile

end TypedSql
