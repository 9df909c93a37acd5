import TypedSql.Proofs.Tree
import TypedSql.Sql.Condition

namespace TypedSql

/-- The operand without the values of its parameters. -/
def Operand.masked : Operand → Operand
  | column qualifier name type => .column qualifier name type
  | parameter name _ => .parameter name .null
  | null => .null
  | apply function argument => .apply function argument.masked
  | round places argument => .round places argument.masked

def Condition.masked : Condition → Condition
  | comparison operator left right => .comparison operator left.masked right.masked
  | test kind receiver arguments negated =>
    .test kind receiver.masked (arguments.map Operand.masked) negated
  | constant value => .constant value

namespace Predicate

def Content.masked : Content → Content
  | condition inner => .condition inner.masked
  | connective inner => .connective inner

def Node.masked (node : Node) : Node :=
  { node with content := node.content.masked }

def Tree.masked : Tree Condition → Tree Condition
  | leaf condition => .leaf condition.masked
  | branch connective left right => .branch connective left.masked right.masked

end Predicate

def Predicate.masked (predicate : Predicate) : Predicate :=
  ⟨predicate.nodes.map Predicate.Node.masked⟩

open Sql

variable (dialect : Dialect)

namespace Operand

theorem sql_masked (operand : Operand) : operand.masked.sql dialect = operand.sql dialect := by
  induction operand with
  | column | parameter | null => rfl
  | apply function argument ih => rw [masked, sql, sql, ih]
  | round places argument ih => rw [masked, sql, sql, ih]

theorem isValue_masked (operand : Operand) : operand.masked.isValue = operand.isValue := by
  cases operand <;> rfl

theorem columnName?_masked (operand : Operand) :
    operand.masked.columnName? = operand.columnName? := by
  induction operand with
  | column | parameter | null => rfl
  | apply function argument ih => exact ih
  | round places argument ih => exact ih

end Operand

theorem ofOperand?_masked (operand? : Option Operand) :
    ofOperand? dialect (operand?.map Operand.masked) = ofOperand? dialect operand? := by
  cases operand? with
  | none => rfl
  | some operand => exact operand.sql_masked dialect

theorem pattern_masked (kind : Test) (argument : Option Operand) :
    pattern dialect kind (argument.map Operand.masked) = pattern dialect kind argument := by
  have value : ((argument.map Operand.masked).map Operand.isValue).getD true =
      (argument.map Operand.isValue).getD true := by
    cases argument with
    | none => rfl
    | some operand => exact operand.isValue_masked
  simp only [pattern, value, ofOperand?_masked]

theorem Condition.sql_masked (condition : Condition) :
    condition.masked.sql dialect = condition.sql dialect := by
  cases condition with
  | constant value => rfl
  | comparison operator left right =>
    have first := left.sql_masked dialect
    have second := right.sql_masked dialect
    cases right with
    | null => cases operator <;> simp only [masked, Operand.masked, sql, first]
    | _ =>
      cases operator <;> simp only [masked, Operand.masked, sql, first] at second ⊢ <;> rw [second]
  | test kind receiver arguments negated =>
    have items : (arguments.map Operand.masked).map (·.sql dialect) =
        arguments.map (·.sql dialect) := by
      rw [List.map_map]
      exact List.map_congr_left fun operand _ => operand.sql_masked dialect
    simp only [masked, sql, ofTest, List.getElem?_map, ofOperand?_masked, pattern_masked,
      receiver.sql_masked dialect, items]

namespace Predicate

theorem Node.sql_masked (node : Node) : node.masked.sql dialect = node.sql dialect := by
  obtain ⟨content, parent, opening, closing, position⟩ := node
  cases content with
  | condition condition =>
    simp only [Node.masked, Content.masked, Node.sql, Content.sql, condition.sql_masked dialect]
  | connective connective => rfl

theorem sql_masked (predicate : Predicate) :
    predicate.masked.sql dialect = predicate.sql dialect := by
  have each : Node.sql dialect ∘ Node.masked = Node.sql dialect :=
    funext fun node => node.sql_masked dialect
  rw [Predicate.sql, Predicate.sql, Predicate.masked, List.mapM_map, each]

theorem Tree.size_masked (tree : Tree Condition) : tree.masked.size = tree.size := by
  induction tree with
  | leaf => rfl
  | branch connective left right ihLeft ihRight => rw [masked, size, size, ihLeft, ihRight]

theorem Tree.emit_masked (tree : Tree Condition) (outer : Option Connective)
    (parent : Option Nat) (opening closing : UInt16) (position : Nat) :
    tree.masked.emit outer parent opening closing position =
      (tree.emit outer parent opening closing position).map Node.masked := by
  induction tree generalizing outer parent opening closing position with
  | leaf => rfl
  | branch connective left right ihLeft ihRight =>
    simp only [masked, emit, ihLeft, ihRight, left.size_masked, List.map_append, List.map_cons]
    rfl

end Predicate

end TypedSql
