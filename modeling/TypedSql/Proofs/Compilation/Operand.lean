import TypedSql.Proofs.Compilation.Run

namespace TypedSql

namespace Expr

mutual

theorem isBound_iff (expr : Expr) : expr.isBound = true ↔ expr.columns ≠ [] := by
  cases expr with
  | column reference => simp [isBound, columns]
  | literal value => simp [isBound, columns]
  | list items => simpa [isBound, columns] using anyBound_iff items
  | compare comparison left right | connect connective left right
  | arithmetic operator left right =>
    have first := isBound_iff left
    have last := isBound_iff right
    simp only [isBound, columns, Bool.or_eq_true, first, last, ne_eq, List.append_eq_nil_iff]
    tauto
  | not inner => simpa [isBound, columns] using isBound_iff inner
  | call method receiver arguments =>
    have first := isBound_iff receiver
    have last := anyBound_iff arguments
    simp only [isBound, columns, Bool.or_eq_true, first, last, ne_eq, List.append_eq_nil_iff]
    tauto

theorem anyBound_iff (items : List Expr) : anyBound items = true ↔ columnsOf items ≠ [] := by
  cases items with
  | nil => simp [anyBound, columnsOf]
  | cons first rest =>
    have head := isBound_iff first
    have tail := anyBound_iff rest
    simp only [anyBound, columnsOf, Bool.or_eq_true, head, tail, ne_eq, List.append_eq_nil_iff]
    tauto

end

theorem firstColumn?_of_isBound {expr : Expr} (bound : expr.isBound = true) :
    ∃ reference ∈ expr.columns, expr.firstColumn? = some reference := by
  obtain ⟨reference, rest, written⟩ := List.exists_cons_of_ne_nil ((isBound_iff expr).mp bound)
  exact ⟨reference, by simp [written], by simp [firstColumn?, written]⟩

end Expr

/-- The operand that an expression with columns is in a scope: a column, or functions of one. -/
inductive OperandIn (scope : Scope) : Expr → Operand → Prop where
  | column {reference : ColumnRef} {qualifier : Option Alias}
      (resolved : scope.resolve reference.table = .ok qualifier) :
      OperandIn scope (.column reference) (.column qualifier reference.name reference.type)
  | apply {function : Function} {receiver : Expr} {arguments : List Expr} {operand : Operand}
      (bound : receiver.isBound = true) (inner : OperandIn scope receiver operand) :
      OperandIn scope (.call (.apply function) receiver arguments) (.apply function operand)
  | round {receiver digits : Expr} {places : Int32} {operand : Operand}
      (bound : receiver.isBound = true) (counted : digits.evaluate = .ok (.int32 places))
      (inner : OperandIn scope receiver operand) :
      OperandIn scope (.call .round receiver [digits]) (.round places operand)

namespace Operand

def parameters : Operand → List Parameter
  | column .. | null => []
  | parameter name value => [⟨name, value⟩]
  | apply _ argument | round _ argument => argument.parameters

end Operand

theorem OperandIn.isBound {scope : Scope} {expr : Expr} {operand : Operand}
    (compiled : OperandIn scope expr operand) : expr.isBound = true := by
  cases compiled with
  | column resolved => rfl
  | apply bound inner => simp [Expr.isBound, bound]
  | round bound counted inner => simp [Expr.isBound, bound]

theorem OperandIn.parameters {scope : Scope} {expr : Expr} {operand : Operand}
    (compiled : OperandIn scope expr operand) : operand.parameters = [] := by
  induction compiled with
  | column resolved => rfl
  | apply bound inner ih => exact ih
  | round bound counted inner ih => exact ih

theorem OperandIn.columnName? {scope : Scope} {expr : Expr} {operand : Operand}
    (compiled : OperandIn scope expr operand) :
    ∃ reference ∈ expr.columns, operand.columnName? = some reference.name := by
  induction compiled with
  | column resolved => exact ⟨_, by simp [Expr.columns], rfl⟩
  | apply bound inner ih =>
    obtain ⟨reference, member, named⟩ := ih
    exact ⟨reference, by simp [Expr.columns, member], named⟩
  | round bound counted inner ih =>
    obtain ⟨reference, member, named⟩ := ih
    exact ⟨reference, by simp [Expr.columns, member], named⟩

namespace Compile

theorem places_ok {expr : Expr} {arguments : List Expr} {before after : Parameters}
    {places : Int32} (compiled : Compile.places expr arguments before = (.ok places, after)) :
    ∃ digits, arguments = [digits] ∧ digits.evaluate = .ok (.int32 places) ∧ before = after := by
  cases arguments with
  | nil => exact (fail_ok.mp compiled).elim
  | cons first rest =>
    obtain ⟨value, middle, lifted, last⟩ := bind_ok.mp compiled
    obtain ⟨evaluated, rfl⟩ := lift_ok.mp lifted
    split at last
    · obtain ⟨rfl, rfl⟩ := pure_ok.mp last
      exact ⟨first, rfl, evaluated, rfl⟩
    · exact (fail_ok.mp last).elim

theorem column_ok {scope : Scope} {reference : ColumnRef} {before after : Parameters}
    {result : Operand} (compiled : column scope reference before = (.ok result, after)) :
    OperandIn scope (.column reference) result ∧ before = after := by
  obtain ⟨qualifier, middle, lifted, last⟩ := bind_ok.mp compiled
  obtain ⟨resolved, rfl⟩ := lift_ok.mp lifted
  obtain ⟨rfl, rfl⟩ := pure_ok.mp last
  exact ⟨.column resolved, rfl⟩

/-- Operands record no parameters. -/
theorem operand_ok {scope : Scope} : (expr : Expr) → {before after : Parameters} →
    {result : Operand} → operand scope expr before = (.ok result, after) →
    OperandIn scope expr result ∧ before = after
  | .column reference, before, after, result, compiled => column_ok compiled
  | .call method receiver arguments, before, after, result, compiled => by
    have wrapped : ∀ {wrap : Operand → Operand} {middle : Parameters},
        (if receiver.isBound = true then do return wrap (← operand scope receiver)
          else fail (.call method receiver arguments) .columnsInArguments : Compile Operand)
            middle = (.ok result, after) →
        receiver.isBound = true ∧ middle = after ∧
          ∃ inner, OperandIn scope receiver inner ∧ wrap inner = result := by
      intro wrap middle last
      split at last
      · rename_i bound
        obtain ⟨inner, final, first, last⟩ := bind_ok.mp last
        obtain ⟨rfl, rfl⟩ := pure_ok.mp last
        obtain ⟨compiledInner, rfl⟩ := operand_ok receiver first
        exact ⟨bound, rfl, inner, compiledInner, rfl⟩
      · exact (fail_ok.mp last).elim
    simp only [operand] at compiled
    cases method with
    | apply function =>
      obtain ⟨wrap, middle, first, last⟩ := bind_ok.mp compiled
      obtain ⟨rfl, rfl⟩ := pure_ok.mp first
      obtain ⟨bound, rfl, inner, compiledInner, rfl⟩ := wrapped last
      exact ⟨.apply bound compiledInner, rfl⟩
    | round =>
      obtain ⟨wrap, middle, first, last⟩ := bind_ok.mp compiled
      obtain ⟨places, counted, rfl⟩ := map_ok.mp first
      obtain ⟨digits, rfl, evaluated, rfl⟩ := places_ok counted
      obtain ⟨bound, rfl, inner, compiledInner, rfl⟩ := wrapped last
      exact ⟨.round bound evaluated compiledInner, rfl⟩
    | average =>
      obtain ⟨wrap, middle, first, last⟩ := bind_ok.mp compiled
      exact (fail_ok.mp first).elim
    | test kind =>
      obtain ⟨wrap, middle, first, last⟩ := bind_ok.mp compiled
      exact (fail_ok.mp first).elim
  | .arithmetic operator left right, before, after, result, compiled => (fail_ok.mp compiled).elim
  | .literal value, before, after, result, compiled => (fail_ok.mp compiled).elim
  | .list items, before, after, result, compiled => (fail_ok.mp compiled).elim
  | .compare comparison left right, before, after, result, compiled => (fail_ok.mp compiled).elim
  | .connect connective left right, before, after, result, compiled => (fail_ok.mp compiled).elim
  | .not inner, before, after, result, compiled => (fail_ok.mp compiled).elim

end Compile

end TypedSql
