import Mathlib.Data.Option.NAry
import Mathlib.Order.Lattice
import TypedSql.Expr

namespace TypedSql

/-- The truth values of a logic in which a comparison with null is neither true nor false. -/
inductive Truth where
  | holds
  | fails
  | unknown
  deriving DecidableEq, Repr

namespace Truth

def ofBool (truth : Bool) : Truth :=
  if truth then holds else fails

def not : Truth → Truth
  | holds => fails
  | fails => holds
  | unknown => unknown

/-- The truth value or, where it is negated, its opposite. -/
def under (negated : Bool) (truth : Truth) : Truth :=
  if negated then truth.not else truth

theorem not_not (truth : Truth) : truth.not.not = truth := by
  cases truth <;> rfl

theorem not_ofBool (truth : Bool) : (ofBool truth).not = ofBool !truth := by
  cases truth <;> rfl

theorem under_ofBool (negated truth : Bool) :
    (ofBool truth).under negated = ofBool (truth != negated) := by
  cases negated <;> cases truth <;> rfl

theorem under_not (negated : Bool) (truth : Truth) :
    truth.not.under negated = truth.under !negated := by
  cases negated with
  | false => rfl
  | true => exact truth.not_not

end Truth

namespace Connective

/-- A conjunction fails if an operand does, a disjunction holds if an operand does, and what is
left is unknown if an operand is. -/
def truth : Connective → Truth → Truth → Truth
  | and, .fails, _ | and, _, .fails => .fails
  | and, .holds, other | and, other, .holds => other
  | or, .holds, _ | or, _, .holds => .holds
  | or, .fails, other | or, other, .fails => other
  | _, .unknown, .unknown => .unknown

theorem truth_assoc (connective : Connective) (first second third : Truth) :
    connective.truth (connective.truth first second) third =
      connective.truth first (connective.truth second third) := by
  cases connective <;> cases first <;> cases second <;> cases third <;> rfl

theorem not_truth (connective : Connective) (left right : Truth) :
    (connective.truth left right).not = connective.dual.truth left.not right.not := by
  cases connective <;> cases left <;> cases right <;> rfl

def truth? (connective : Connective) : Option Truth → Option Truth → Option Truth :=
  Option.map₂ connective.truth

theorem truth?_assoc (connective : Connective) (first second third : Option Truth) :
    connective.truth? (connective.truth? first second) third =
      connective.truth? first (connective.truth? second third) :=
  Option.map₂_assoc connective.truth_assoc

/-- A negated connective is its dual on negated operands. -/
theorem truth?_under (connective : Connective) (negated : Bool) (left right : Option Truth) :
    (connective.truth? left right).map (Truth.under negated) =
      (if negated then connective.dual else connective).truth? (left.map (Truth.under negated))
        (right.map (Truth.under negated)) := by
  cases negated with
  | false =>
    have same : Truth.under false = id := rfl
    simp [same]
  | true => exact Option.map_map₂_distrib connective.not_truth

end Connective

namespace Comparison

variable {Rank : Type} [LinearOrder Rank]

def relates : Comparison → Rank → Rank → Prop
  | equal, a, b => a = b
  | notEqual, a, b => a ≠ b
  | greater, a, b => b < a
  | greaterOrEqual, a, b => b ≤ a
  | less, a, b => a < b
  | lessOrEqual, a, b => a ≤ b

instance (comparison : Comparison) (a b : Rank) : Decidable (comparison.relates a b) :=
  match comparison with
  | equal => inferInstanceAs (Decidable (a = b))
  | notEqual => inferInstanceAs (Decidable (a ≠ b))
  | greater => inferInstanceAs (Decidable (b < a))
  | greaterOrEqual => inferInstanceAs (Decidable (b ≤ a))
  | less => inferInstanceAs (Decidable (a < b))
  | lessOrEqual => inferInstanceAs (Decidable (a ≤ b))

theorem relates_negate (comparison : Comparison) (a b : Rank) :
    comparison.negate.relates a b ↔ ¬comparison.relates a b := by
  cases comparison <;> simp [negate, relates]

theorem relates_mirror (comparison : Comparison) (a b : Rank) :
    comparison.mirror.relates b a ↔ comparison.relates a b := by
  cases comparison <;> simp [mirror, relates, eq_comm]

end Comparison

end TypedSql
