import TypedSql.Proofs.Compilation.Operand

namespace TypedSql

def Comparison.under (negated : Bool) (comparison : Comparison) : Comparison :=
  if negated then comparison.negate else comparison

/-- The parameters of a condition in the order in which they stand in it. -/
def Condition.parameters : Condition → List Parameter
  | .comparison _ left right => left.parameters ++ right.parameters
  | .test _ receiver arguments _ => receiver.parameters ++ arguments.flatMap Operand.parameters
  | .constant _ => []

/-- What the receiver or an argument of a test is in a scope. A value is changed and stands for
itself under a parameter named after a column. -/
inductive ArgumentIn (scope : Scope) (column : String) (change : Value → Value) :
    Expr → Operand → Prop where
  | stored {expr : Expr} {operand : Operand} (bound : expr.isBound = true)
      (inner : OperandIn scope expr operand) : ArgumentIn scope column change expr operand
  | value {expr : Expr} {value : Value} {number : Nat} (free : expr.isBound = false)
      (evaluated : expr.evaluate = .ok value) (present : value.isNull = false) :
      ArgumentIn scope column change expr
        (.parameter (Parameters.numbered column number) (change value))

/-- What a comparison is in a scope if its first operand has columns. -/
inductive ComparisonIn (scope : Scope) (comparison : Comparison) (first other : Expr) :
    Condition → Prop where
  | stored {left right : Operand} (inner : OperandIn scope first left)
      (bound : other.isBound = true) (innerOther : OperandIn scope other right) :
      ComparisonIn scope comparison first other (.comparison comparison left right)
  | null {left : Operand} (inner : OperandIn scope first left) (free : other.isBound = false)
      (evaluated : other.evaluate = .ok .null) (unordered : comparison.isOrdering = false) :
      ComparisonIn scope comparison first other (.comparison comparison left .null)
  | value {left : Operand} {column : String} {value : Value} {number : Nat}
      (inner : OperandIn scope first left) (named : left.columnName? = some column)
      (free : other.isBound = false) (evaluated : other.evaluate = .ok value)
      (present : value.isNull = false) :
      ComparisonIn scope comparison first other
        (.comparison comparison left (.parameter (Parameters.numbered column number) value))

/-- What an expression that is no connective and no negation is in a scope. -/
inductive ConditionIn (scope : Scope) : Expr → Bool → Condition → Prop where
  | constant {expr : Expr} {negated truth : Bool} (free : expr.isBound = false)
      (evaluated : expr.evaluateBool = .ok truth) :
      ConditionIn scope expr negated (.constant (truth != negated))
  | column {reference : ColumnRef} {qualifier : Option Alias} {negated : Bool} {number : Nat}
      (boolean : reference.type = .bool)
      (resolved : scope.resolve reference.table = .ok qualifier) :
      ConditionIn scope (.column reference) negated
        (.comparison .equal (.column qualifier reference.name reference.type)
          (.parameter (Parameters.numbered reference.name number) (.bool !negated)))
  | compare {comparison : Comparison} {left right : Expr} {negated : Bool} {condition : Condition}
      (bound : left.isBound = true)
      (compared : ComparisonIn scope (comparison.under negated) left right condition) :
      ConditionIn scope (.compare comparison left right) negated condition
  | mirrored {comparison : Comparison} {left right : Expr} {negated : Bool} {condition : Condition}
      (free : left.isBound = false) (bound : right.isBound = true)
      (compared : ComparisonIn scope (comparison.mirror.under negated) right left condition) :
      ConditionIn scope (.compare comparison left right) negated condition
  | isInNothing {receiver : Expr} {operand : Operand} {negated : Bool}
      (bound : receiver.isBound = true) (inner : OperandIn scope receiver operand) :
      ConditionIn scope (.call (.test .isIn) receiver [.list []]) negated (.constant negated)
  | isIn {receiver : Expr} {items : List Expr} {operand : Operand} {operands : List Operand}
      {reference : ColumnRef} {negated : Bool}
      (member : reference ∈ (Expr.call (.test .isIn) receiver [.list items]).columns)
      (filled : items ≠ []) (inner : ArgumentIn scope reference.name id receiver operand)
      (each : List.Forall₂ (ArgumentIn scope reference.name id) items operands) :
      ConditionIn scope (.call (.test .isIn) receiver [.list items]) negated
        (.test .isIn operand operands negated)
  | test {kind : Test} {receiver : Expr} {arguments : List Expr} {operand : Operand}
      {operands : List Operand} {reference : ColumnRef} {negated : Bool} (other : kind ≠ .isIn)
      (arity : arguments.length = kind.arity)
      (member : reference ∈ (Expr.call (.test kind) receiver arguments).columns)
      (inner : ArgumentIn scope reference.name id receiver operand)
      (each : List.Forall₂ (ArgumentIn scope reference.name kind.patternValue) arguments operands) :
      ConditionIn scope (.call (.test kind) receiver arguments) negated
        (.test kind operand operands negated)

namespace Compile

variable {scope : Scope} {before after : Parameters}

theorem argument_ok {column : String} {change : Value → Value} {expr : Expr} {result : Operand}
    (compiled : argument scope (some column) change expr before = (.ok result, after)) :
    ArgumentIn scope column change expr result ∧
      Parameters.Extends before after result.parameters := by
  unfold argument at compiled
  split at compiled
  · rename_i bound
    obtain ⟨inner, rfl⟩ := operand_ok expr compiled
    refine ⟨.stored bound inner, ?_⟩
    rw [inner.parameters]
    exact .refl before
  · rename_i free
    obtain ⟨value, middle, lifted, last⟩ := bind_ok.mp compiled
    obtain ⟨evaluated, rfl⟩ := lift_ok.mp lifted
    split at last
    · exact (fail_ok.mp last).elim
    · rename_i present
      obtain ⟨rfl, rfl⟩ := parameter_ok.mp last
      exact ⟨.value (by simpa using free) evaluated (by simpa using present),
        before.allocate_extends column (change value)⟩

theorem arguments_ok {column : String} {change : Value → Value} {items : List Expr}
    {results : List Operand}
    (compiled : items.mapM (argument scope (some column) change) before = (.ok results, after)) :
    List.Forall₂ (ArgumentIn scope column change) items results ∧
      Parameters.Extends before after (results.flatMap Operand.parameters) :=
  mapM_ok (argument scope (some column) change) (fun _ _ _ _ => argument_ok) compiled

theorem compared_ok {comparison : Comparison} {first other : Expr} {result : Condition}
    (compiled : compared scope comparison first other before = (.ok result, after)) :
    ComparisonIn scope comparison first other result ∧
      Parameters.Extends before after result.parameters := by
  obtain ⟨operand, middle, compiledFirst, last⟩ := bind_ok.mp compiled
  obtain ⟨inner, rfl⟩ := operand_ok first compiledFirst
  split at last
  · rename_i boundOther
    obtain ⟨operandOther, middle, compiledOther, last⟩ := bind_ok.mp last
    obtain ⟨innerOther, rfl⟩ := operand_ok other compiledOther
    obtain ⟨rfl, rfl⟩ := pure_ok.mp last
    refine ⟨.stored inner boundOther innerOther, ?_⟩
    rw [Condition.parameters, inner.parameters, innerOther.parameters]
    exact .refl before
  · rename_i free
    obtain ⟨value, middle, lifted, last⟩ := bind_ok.mp last
    obtain ⟨evaluated, rfl⟩ := lift_ok.mp lifted
    split at last
    · rename_i null
      split at last
      · exact (fail_ok.mp last).elim
      · rename_i unordered
        obtain ⟨rfl, rfl⟩ := pure_ok.mp last
        have isNull : value = .null := by
          cases value <;> first | rfl | cases null
        refine ⟨.null inner (by simpa using free) (isNull ▸ evaluated)
          (by simpa using unordered), ?_⟩
        rw [Condition.parameters, inner.parameters]
        exact .refl before
    · rename_i present
      obtain ⟨added, middle, allocated, last⟩ := bind_ok.mp last
      obtain ⟨rfl, rfl⟩ := pure_ok.mp last
      obtain ⟨reference, member, named⟩ := inner.columnName?
      rw [named] at allocated
      obtain ⟨rfl, rfl⟩ := parameter_ok.mp allocated
      refine ⟨.value inner named (by simpa using free) evaluated (by simpa using present), ?_⟩
      rw [Condition.parameters, inner.parameters]
      exact before.allocate_extends reference.name value

theorem comparison_ok {written : Comparison} {left right : Expr} {negated : Bool}
    {result : Condition} (bound : left.isBound = true ∨ right.isBound = true)
    (compiled : comparison scope written left right negated before = (.ok result, after)) :
    ConditionIn scope (.compare written left right) negated result ∧
      Parameters.Extends before after result.parameters := by
  unfold comparison at compiled
  by_cases first : left.isBound = true
  · simp only [first, if_true] at compiled
    obtain ⟨related, extension⟩ := compared_ok compiled
    exact ⟨.compare first related, extension⟩
  · simp only [first] at compiled
    obtain ⟨related, extension⟩ := compared_ok compiled
    have last : right.isBound = true := bound.resolve_left first
    exact ⟨.mirrored (by simpa using first) last related, extension⟩

theorem test_ok {kind : Test} {receiver : Expr} {arguments : List Expr} {negated : Bool}
    {result : Condition} (bound : (Expr.call (.test kind) receiver arguments).isBound = true)
    (compiled : test scope (.call (.test kind) receiver arguments) kind receiver arguments negated
      before = (.ok result, after)) :
    ConditionIn scope (.call (.test kind) receiver arguments) negated result ∧
      Parameters.Extends before after result.parameters := by
  obtain ⟨reference, member, hint⟩ := Expr.firstColumn?_of_isBound bound
  unfold test at compiled
  simp only [hint, Option.map_some] at compiled
  split at compiled
  · exact (fail_ok.mp compiled).elim
  · rename_i arity
    obtain ⟨operand, middle, first, last⟩ := bind_ok.mp compiled
    obtain ⟨inner, extension⟩ := argument_ok first
    split at last
    · obtain ⟨rfl, rfl⟩ := pure_ok.mp last
      have boundReceiver : receiver.isBound = true := by
        simpa [Expr.isBound, Expr.anyBound] using bound
      cases inner with
      | stored _ innerReceiver =>
        rw [innerReceiver.parameters] at extension
        exact ⟨.isInNothing boundReceiver innerReceiver, extension⟩
      | value free =>
        rw [boundReceiver] at free
        cases free
    · rename_i items filled
      obtain ⟨operands, final, listed, last⟩ := bind_ok.mp last
      obtain ⟨each, further⟩ := arguments_ok listed
      obtain ⟨rfl, rfl⟩ := pure_ok.mp last
      refine ⟨.isIn member ?_ inner each, extension.trans further⟩
      rintro rfl
      exact filled rfl
    · exact (fail_ok.mp last).elim
    · rename_i other _ _
      obtain ⟨operands, final, listed, last⟩ := bind_ok.mp last
      obtain ⟨each, further⟩ := arguments_ok listed
      obtain ⟨rfl, rfl⟩ := pure_ok.mp last
      exact ⟨.test other (by simpa using arity) member inner each, extension.trans further⟩

theorem condition_ok {expr : Expr} {negated : Bool} {result : Condition}
    (compiled : condition scope expr negated before = (.ok result, after)) :
    ConditionIn scope expr negated result ∧ Parameters.Extends before after result.parameters := by
  unfold condition at compiled
  split at compiled
  · rename_i free
    obtain ⟨truth, middle, lifted, last⟩ := bind_ok.mp compiled
    obtain ⟨evaluated, rfl⟩ := lift_ok.mp lifted
    obtain ⟨rfl, rfl⟩ := pure_ok.mp last
    exact ⟨.constant (by simpa using free) evaluated, .refl before⟩
  · rename_i notFree
    have bound : expr.isBound = true := by simpa using notFree
    split at compiled
    · rename_i reference
      split at compiled
      · exact (fail_ok.mp compiled).elim
      · rename_i boolean
        obtain ⟨operand, middle, first, last⟩ := bind_ok.mp compiled
        obtain ⟨added, final, allocated, last⟩ := bind_ok.mp last
        obtain ⟨inner, rfl⟩ := column_ok first
        obtain ⟨rfl, rfl⟩ := parameter_ok.mp allocated
        obtain ⟨rfl, rfl⟩ := pure_ok.mp last
        cases inner with
        | column resolved =>
          exact ⟨.column (by simpa using boolean) resolved,
            before.allocate_extends reference.name (.bool !negated)⟩
    · exact comparison_ok (by simpa [Expr.isBound] using bound) compiled
    · exact test_ok bound compiled
    all_goals exact (fail_ok.mp compiled).elim

end Compile

end TypedSql
