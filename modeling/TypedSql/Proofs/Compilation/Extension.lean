import TypedSql.Proofs.Aliases
import TypedSql.Proofs.Compilation.Clauses

namespace TypedSql

/-- What a table goes by in a scope it goes by in another, which may know more tables. -/
def Scope.Extends (before after : Scope) : Prop :=
  ∀ table qualifier, before.resolve table = .ok qualifier → after.resolve table = .ok qualifier

theorem Aliases.Extends.scope {before after : Aliases} (extended : before.Extends after) :
    Scope.Extends (.aliased before) (.aliased after) := by
  intro table qualifier resolved
  obtain ⟨known, given, same⟩ := Except.map_ok.mp resolved
  have found := extended.get? (Aliases.require_ok given)
  simp only [Scope.resolve, Aliases.require, found, ← same]
  rfl

section

variable {scope wider : Scope} (extended : scope.Extends wider)

include extended

theorem OperandIn.extend {expr : Expr} {operand : Operand}
    (compiled : OperandIn scope expr operand) : OperandIn wider expr operand := by
  induction compiled with
  | column resolved => exact .column (extended _ _ resolved)
  | apply bound _ ih => exact .apply bound ih
  | round bound counted _ ih => exact .round bound counted ih

theorem ArgumentIn.extend {column : String} {change : Value → Value} {expr : Expr}
    {operand : Operand} (compiled : ArgumentIn scope column change expr operand) :
    ArgumentIn wider column change expr operand := by
  cases compiled with
  | stored bound inner => exact .stored bound (inner.extend extended)
  | value free evaluated present => exact .value free evaluated present

theorem ComparisonIn.extend {comparison : Comparison} {first other : Expr} {condition : Condition}
    (compiled : ComparisonIn scope comparison first other condition) :
    ComparisonIn wider comparison first other condition := by
  cases compiled with
  | stored inner bound innerOther =>
    exact .stored (inner.extend extended) bound (innerOther.extend extended)
  | null inner free evaluated unordered =>
    exact .null (inner.extend extended) free evaluated unordered
  | value inner named free evaluated present =>
    exact .value (inner.extend extended) named free evaluated present

theorem ConditionIn.extend {expr : Expr} {negated : Bool} {condition : Condition}
    (compiled : ConditionIn scope expr negated condition) :
    ConditionIn wider expr negated condition := by
  have arguments : ∀ {column change items operands},
      List.Forall₂ (ArgumentIn scope column change) items operands →
      List.Forall₂ (ArgumentIn wider column change) items operands :=
    fun each => each.imp fun _ _ argument => argument.extend extended
  cases compiled with
  | constant free evaluated => exact .constant free evaluated
  | column boolean resolved => exact .column boolean (extended _ _ resolved)
  | compare bound compared => exact .compare bound (compared.extend extended)
  | mirrored free bound compared => exact .mirrored free bound (compared.extend extended)
  | isInNothing bound inner => exact .isInNothing bound (inner.extend extended)
  | isIn member filled inner each =>
    exact .isIn member filled (inner.extend extended) (arguments each)
  | test other arity member inner each =>
    exact .test other arity member (inner.extend extended) (arguments each)

end

end TypedSql
