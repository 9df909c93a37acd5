import TypedSql.Proofs.Compilation.Clauses

namespace TypedSql

/-- The value that an operand gives to a parameter, if it has no columns and is not null. -/
def Expr.given (change : Value → Value) (expr : Expr) : List Value :=
  if expr.isBound then []
  else
    match expr.evaluate with
    | .ok value => if value.isNull then [] else [change value]
    | .error _ => []

namespace Clause

/-- The values that a clause gives to parameters from left to right: the polarity of a column, and
the values that stand beside columns, in a search for a text as patterns. -/
def values (clause : Clause) : List Value :=
  if !clause.expr.isBound then []
  else
    match clause.expr with
    | .column _ => [.bool !clause.negated]
    | .compare _ left right => left.given id ++ right.given id
    | .call (.test .isIn) receiver [.list items] =>
      receiver.given id ++ items.flatMap (Expr.given id)
    | .call (.test kind) receiver arguments =>
      receiver.given id ++ arguments.flatMap (Expr.given kind.patternValue)
    | _ => []

def Binds (clause : Clause) (value : Value) (parameter : Parameter) : Prop :=
  parameter.value = value ∧ ∃ reference ∈ clause.expr.columns, ∃ number,
    parameter.name = Parameters.numbered reference.name number

end Clause

section

variable {scope : Scope}

theorem OperandIn.given {expr : Expr} {operand : Operand} (compiled : OperandIn scope expr operand)
    (change : Value → Value) : expr.given change = [] := by
  simp [Expr.given, compiled.isBound]

variable {clause : Clause}

theorem ArgumentIn.binds {reference : ColumnRef} {change : Value → Value} {expr : Expr}
    {operand : Operand} (member : reference ∈ clause.expr.columns)
    (compiled : ArgumentIn scope reference.name change expr operand) :
    List.Forall₂ clause.Binds (expr.given change) operand.parameters := by
  cases compiled with
  | stored bound inner =>
    rw [inner.given, inner.parameters]
    exact .nil
  | @value value number free evaluated present =>
    simp only [Expr.given, free, evaluated, present, Operand.parameters]
    exact .cons ⟨rfl, reference, member, number, rfl⟩ .nil

theorem ArgumentIn.bindsAll {reference : ColumnRef} {change : Value → Value} {items : List Expr}
    {operands : List Operand} (member : reference ∈ clause.expr.columns)
    (each : List.Forall₂ (ArgumentIn scope reference.name change) items operands) :
    List.Forall₂ clause.Binds (items.flatMap (Expr.given change))
      (operands.flatMap Operand.parameters) := by
  induction each with
  | nil => exact .nil
  | cons first _ ih => exact List.rel_append (first.binds member) ih

theorem ComparisonIn.binds {comparison : Comparison} {first other : Expr} {condition : Condition}
    (within : ∀ reference ∈ first.columns, reference ∈ clause.expr.columns)
    (compiled : ComparisonIn scope comparison first other condition) :
    first.given id = [] ∧ List.Forall₂ clause.Binds (other.given id) condition.parameters := by
  cases compiled with
  | @stored left right inner bound innerOther =>
    refine ⟨inner.given id, ?_⟩
    rw [innerOther.given, Condition.parameters, inner.parameters, innerOther.parameters]
    exact .nil
  | @null left inner free evaluated unordered =>
    refine ⟨inner.given id, ?_⟩
    rw [Condition.parameters, inner.parameters]
    simp only [Expr.given, free, evaluated, Value.isNull]
    exact .nil
  | @value left column value number inner named free evaluated present =>
    refine ⟨inner.given id, ?_⟩
    obtain ⟨reference, member, same⟩ := inner.columnName?
    rw [named] at same
    cases same
    rw [Condition.parameters, inner.parameters]
    simp only [Expr.given, free, evaluated, present]
    exact .cons ⟨rfl, reference, within reference member, number, rfl⟩ .nil

theorem ConditionIn.binds {expr : Expr} {negated : Bool} {condition : Condition}
    (compiled : ConditionIn scope expr negated condition) :
    List.Forall₂ (Clause.Binds ⟨expr, negated⟩) (Clause.values ⟨expr, negated⟩)
      condition.parameters := by
  cases compiled with
  | constant free evaluated =>
    simp only [Clause.values, free]
    exact .nil
  | @column reference qualifier _ number boolean resolved =>
    exact .cons ⟨rfl, reference, by simp [Expr.columns], number, rfl⟩ .nil
  | @compare comparison left right _ _ bound compared =>
    have within : ∀ reference ∈ left.columns,
        reference ∈ (Clause.mk (.compare comparison left right) negated).expr.columns :=
      fun reference member => by simp [Expr.columns, member]
    obtain ⟨none, binds⟩ := compared.binds within
    simpa [Clause.values, Expr.isBound, bound, none] using binds
  | @mirrored comparison left right _ _ free bound compared =>
    have within : ∀ reference ∈ right.columns,
        reference ∈ (Clause.mk (.compare comparison left right) negated).expr.columns :=
      fun reference member => by simp [Expr.columns, member]
    obtain ⟨none, binds⟩ := compared.binds within
    simpa [Clause.values, Expr.isBound, bound, none] using binds
  | @isInNothing receiver operand _ bound inner =>
    simp [Clause.values, Expr.isBound, bound, inner.given, Condition.parameters]
  | @isIn receiver items operand operands reference _ member filled inner each =>
    have bound := (Expr.isBound_iff _).mpr (List.ne_nil_of_mem member)
    simp only [Clause.values, bound]
    exact List.rel_append (inner.binds member) (ArgumentIn.bindsAll member each)
  | @test kind receiver arguments operand operands reference _ other arity member inner each =>
    have bound := (Expr.isBound_iff _).mpr (List.ne_nil_of_mem member)
    have written : reference ∈
        (Clause.mk (.call (.test kind) receiver arguments) negated).expr.columns := member
    have both := List.rel_append (inner.binds written) (ArgumentIn.bindsAll written each)
    cases kind with
    | isIn => exact (other rfl).elim
    | _ =>
      simp only [Clause.values, bound]
      exact both

end

end TypedSql
