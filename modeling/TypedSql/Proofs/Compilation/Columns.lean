import TypedSql.Proofs.Reading
import TypedSql.Proofs.Compilation.Clauses

namespace TypedSql

/-- A column as a predicate names it: by the alias of its table, or by none. -/
structure QualifiedColumn where
  qualifier : Option Alias
  name : String
  type : FieldType

def Operand.columns : Operand → List QualifiedColumn
  | column qualifier name type => [⟨qualifier, name, type⟩]
  | parameter .. | null => []
  | apply _ argument | round _ argument => argument.columns

def Condition.columns : Condition → List QualifiedColumn
  | comparison _ left right => left.columns ++ right.columns
  | test _ receiver arguments _ => receiver.columns ++ arguments.flatMap Operand.columns
  | constant _ => []

def Predicate.columns (predicate : Predicate) : List QualifiedColumn :=
  predicate.conditions.flatMap Condition.columns

/-- The column that a chain of functions is about. Further arguments of the functions are not. -/
def Expr.stem : Expr → List ColumnRef
  | column reference => [reference]
  | call _ receiver _ => receiver.stem
  | _ => []

/-- The columns that a clause is about from left to right. A test for membership in the empty list
is about none. -/
def Clause.columns (clause : Clause) : List ColumnRef :=
  match clause.expr with
  | .column reference => [reference]
  | .compare _ left right => left.stem ++ right.stem
  | .call (.test .isIn) _ [.list []] => []
  | .call (.test .isIn) receiver [.list items] => receiver.stem ++ items.flatMap Expr.stem
  | .call (.test _) receiver arguments => receiver.stem ++ arguments.flatMap Expr.stem
  | _ => []

/-- The columns that an expression is about as a predicate. -/
def Expr.storedColumns (expr : Expr) : List ColumnRef :=
  (expr.clauses false).leaves.flatMap Clause.columns

/-- The column of a predicate is that of a table, under the name of the table in the scope. -/
structure ColumnIn (scope : Scope) (reference : ColumnRef) (column : QualifiedColumn) : Prop where
  resolved : scope.resolve reference.table = .ok column.qualifier
  name : column.name = reference.name
  type : column.type = reference.type

namespace Expr

theorem columnsOf_eq_flatMap (items : List Expr) : columnsOf items = items.flatMap columns := by
  induction items with
  | nil => rfl
  | cons first rest ih => simp [columnsOf, ih]

theorem mem_columns_of_mem_stem {expr : Expr} {reference : ColumnRef}
    (member : reference ∈ expr.stem) : reference ∈ expr.columns := by
  fun_induction Expr.stem expr with
  | case1 own => simpa [columns] using member
  | case2 method receiver arguments ih => simp [columns, ih member]
  | case3 => cases member

theorem columns_of_free {expr : Expr} (free : expr.isBound = false) : expr.columns = [] := by
  by_contra some
  have bound := (isBound_iff expr).mpr some
  rw [free] at bound
  cases bound

theorem stem_of_free {expr : Expr} (free : expr.isBound = false) : expr.stem = [] := by
  apply List.eq_nil_iff_forall_not_mem.mpr
  intro reference member
  have written := mem_columns_of_mem_stem member
  rw [columns_of_free free] at written
  cases written

end Expr

theorem Clause.mem_columns {clause : Clause} {reference : ColumnRef}
    (member : reference ∈ clause.columns) : reference ∈ clause.expr.columns := by
  have stems : ∀ items : List Expr, reference ∈ items.flatMap Expr.stem →
      reference ∈ Expr.columnsOf items := by
    intro items member
    rw [Expr.columnsOf_eq_flatMap]
    obtain ⟨item, listed, stem⟩ := List.mem_flatMap.mp member
    exact List.mem_flatMap.mpr ⟨item, listed, Expr.mem_columns_of_mem_stem stem⟩
  obtain ⟨expr, negated⟩ := clause
  unfold Clause.columns at member
  dsimp only at member ⊢
  split at member
  · simpa [Expr.columns] using member
  · rw [Expr.columns]
    rcases List.mem_append.mp member with first | second
    · exact List.mem_append_left _ (Expr.mem_columns_of_mem_stem first)
    · exact List.mem_append_right _ (Expr.mem_columns_of_mem_stem second)
  · cases member
  · rcases List.mem_append.mp member with first | second
    · exact List.mem_append_left _ (Expr.mem_columns_of_mem_stem first)
    · have listed := stems _ second
      simp [Expr.columns, Expr.columnsOf, listed]
  · rw [Expr.columns]
    rcases List.mem_append.mp member with first | second
    · exact List.mem_append_left _ (Expr.mem_columns_of_mem_stem first)
    · exact List.mem_append_right _ (stems _ second)
  · cases member

theorem Clause.columns_of_free {clause : Clause} (free : clause.expr.isBound = false) :
    clause.columns = [] := by
  apply List.eq_nil_iff_forall_not_mem.mpr
  intro reference member
  have written := Clause.mem_columns member
  rw [Expr.columns_of_free free] at written
  cases written

section

variable {scope : Scope}

theorem OperandIn.columns {expr : Expr} {operand : Operand}
    (compiled : OperandIn scope expr operand) :
    List.Forall₂ (ColumnIn scope) expr.stem operand.columns := by
  induction compiled with
  | column resolved => exact .cons ⟨resolved, rfl, rfl⟩ .nil
  | apply bound inner ih => exact ih
  | round bound counted inner ih => exact ih

theorem ArgumentIn.columns {column : String} {change : Value → Value} {expr : Expr}
    {operand : Operand} (compiled : ArgumentIn scope column change expr operand) :
    List.Forall₂ (ColumnIn scope) expr.stem operand.columns := by
  cases compiled with
  | stored bound inner => exact inner.columns
  | value free evaluated present =>
    rw [Expr.stem_of_free free]
    exact .nil

theorem ArgumentIn.columnsAll {column : String} {change : Value → Value} {items : List Expr}
    {operands : List Operand}
    (each : List.Forall₂ (ArgumentIn scope column change) items operands) :
    List.Forall₂ (ColumnIn scope) (items.flatMap Expr.stem) (operands.flatMap Operand.columns) := by
  induction each with
  | nil => exact .nil
  | cons first _ ih => exact List.rel_append first.columns ih

theorem ComparisonIn.columns {comparison : Comparison} {first other : Expr} {condition : Condition}
    (compiled : ComparisonIn scope comparison first other condition) :
    List.Forall₂ (ColumnIn scope) (first.stem ++ other.stem) condition.columns := by
  cases compiled with
  | stored inner bound innerOther => exact List.rel_append inner.columns innerOther.columns
  | null inner free evaluated unordered =>
    rw [Expr.stem_of_free free]
    exact List.rel_append inner.columns .nil
  | value inner named free evaluated present =>
    rw [Expr.stem_of_free free]
    exact List.rel_append inner.columns .nil

/-- The columns of a condition are those of its clause one by one. -/
theorem ConditionIn.columns {expr : Expr} {negated : Bool} {condition : Condition}
    (compiled : ConditionIn scope expr negated condition) :
    List.Forall₂ (ColumnIn scope) (Clause.columns ⟨expr, negated⟩) condition.columns := by
  cases compiled with
  | constant free evaluated =>
    rw [Clause.columns_of_free free]
    exact .nil
  | column boolean resolved => exact .cons ⟨resolved, rfl, rfl⟩ .nil
  | compare bound compared => exact compared.columns
  | @mirrored comparison left right _ _ free bound compared =>
    have sides := compared.columns
    rw [Expr.stem_of_free free, List.append_nil] at sides
    simpa [Clause.columns, Expr.stem_of_free free] using sides
  | isInNothing bound inner => exact .nil
  | @isIn receiver items operand operands reference _ member filled inner each =>
    have both := List.rel_append inner.columns (ArgumentIn.columnsAll each)
    cases items with
    | nil => exact (filled rfl).elim
    | cons first rest => exact both
  | @test kind receiver arguments operand operands reference _ other arity member inner each =>
    have both := List.rel_append inner.columns (ArgumentIn.columnsAll each)
    cases kind with
    | isIn => exact (other rfl).elim
    | _ => exact both

/-- The columns of a compiled expression are those that it is about one by one. -/
theorem Expr.compile_columns {expr : Expr} {before after : Parameters} {predicate : Predicate}
    (compiled : expr.compile scope before = (.ok predicate, after)) :
    List.Forall₂ (ColumnIn scope) expr.storedColumns predicate.columns := by
  obtain ⟨tree, rfl, related, _⟩ := Expr.compile_ok compiled
  rw [Predicate.columns, Predicate.conditions_nodes]
  refine List.rel_flatMap related.leaves ?_
  intro clause condition compiledClause
  exact ConditionIn.columns compiledClause

end

end TypedSql
