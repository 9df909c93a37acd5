import Mathlib.Data.List.ModifyLast
import TypedSql.Proofs.Compilation.Clauses
import TypedSql.Proofs.Worklist.Layout

namespace TypedSql

open Predicate (Node Tree)

namespace Predicate

def Node.moved (distance : Nat) (node : Node) : Node :=
  { node with
    parent := node.parent.map (· + distance)
    position := node.position + distance }

def Node.hung (parent : Nat) (node : Node) : Node :=
  { node with parent := some parent }

/-- The nodes of a subexpression from left to right, as if there were no others, and the position of
the outermost one. -/
structure Segment where
  nodes : List Node
  root : Nat

namespace Segment

def single (condition : Condition) : Segment :=
  ⟨[⟨.condition condition, none, 0, 0, 0⟩], 0⟩

def connective? (segment : Segment) : Option Connective :=
  segment.nodes[segment.root]?.bind fun node => node.content.connective?

/-- A side of a connective. The first and the last node carry parentheses if the outermost one is
another connective. -/
def under (outer : Connective) (segment : Segment) : Segment :=
  if segment.connective?.isNone || segment.connective? == some outer then
    segment
  else
    { segment with nodes := (segment.nodes.modifyHead Node.opened).modifyLast Node.closed }

/-- The nodes of a segment behind others, when a parent is put over the outermost one. -/
def placed (distance parent : Nat) (segment : Segment) : List Node :=
  (segment.nodes.map (Node.moved distance)).modify segment.root (Node.hung parent)

def join (connective : Connective) (left right : Segment) : Segment :=
  let middle := left.nodes.length
  ⟨(left.under connective).placed 0 middle ++ [⟨.connective connective, none, 0, 0, middle⟩] ++
    (right.under connective).placed (middle + 1) middle, middle⟩

end Segment

end Predicate

open Predicate (Segment)

/-- The compiler by recursion. -/
def Compile.segment (scope : Scope) (expr : Expr) (negated : Bool) : Compile Segment :=
  match expr with
  | .not inner => segment scope inner !negated
  | .connect connective left right => do
    let left ← segment scope left negated
    let right ← segment scope right negated
    return .join (if negated then connective.dual else connective) left right
  | expr => return .single (← condition scope expr negated)

namespace Predicate.Tree

def top {α : Type} : Tree α → Nat
  | leaf _ => 0
  | branch _ left _ => left.size

def segment : Tree Condition → Segment
  | leaf condition => .single condition
  | branch connective left right => .join connective left.segment right.segment

theorem modify_append_cons {α : Type} (change : α → α) {before : List α} {item : α}
    {after : List α} {index : Nat} (here : index = before.length) :
    (before ++ item :: after).modify index change = before ++ change item :: after := by
  subst here
  induction before with
  | nil => rfl
  | cons first rest ih => simp [ih]

theorem modifyHead_append {α : Type} (change : α → α) {first : List α} (rest : List α)
    (filled : first ≠ []) :
    (first ++ rest).modifyHead change = first.modifyHead change ++ rest := by
  cases first with
  | nil => contradiction
  | cons _ _ => rfl

section

variable (outer : Option Connective) (parent : Option Nat) (opening closing : UInt16)
  (position : Nat)

theorem length_emit (tree : Tree Condition) :
    (tree.emit outer parent opening closing position).length = tree.size := by
  induction tree generalizing outer parent opening closing position with
  | leaf condition => rfl
  | branch connective left right ihLeft ihRight =>
    simp only [emit, List.length_append, List.length_cons, ihLeft, ihRight, size]
    omega

theorem emit_ne_nil (tree : Tree Condition) :
    tree.emit outer parent opening closing position ≠ [] := by
  cases tree <;> simp [emit]

theorem map_moved_emit (distance : Nat) (tree : Tree Condition) :
    (tree.emit outer parent opening closing position).map (Node.moved distance) =
      tree.emit outer (parent.map (· + distance)) opening closing (position + distance) := by
  induction tree generalizing outer parent opening closing position with
  | leaf condition => rfl
  | branch connective left right ihLeft ihRight =>
    have middle : position + left.size + distance = position + distance + left.size := by omega
    have behind : position + left.size + 1 + distance = position + distance + left.size + 1 := by
      omega
    simp only [emit, List.map_append, List.map_cons, ihLeft, ihRight, Option.map_some, middle,
      behind]
    simp only [Node.moved, middle]

theorem modifyHead_opened_emit (tree : Tree Condition) :
    (tree.emit outer parent opening closing position).modifyHead Node.opened =
      tree.emit outer parent (opening + 1) closing position := by
  induction tree generalizing outer parent opening closing position with
  | leaf condition => rfl
  | branch connective left right ihLeft ihRight =>
    simp only [emit]
    rw [modifyHead_append _ _ (emit_ne_nil _ _ _ _ _ left), ihLeft, UInt16.add_assoc,
      UInt16.add_assoc, UInt16.add_comm 1]

theorem modifyLast_closed_emit (tree : Tree Condition) :
    (tree.emit outer parent opening closing position).modifyLast Node.closed =
      tree.emit outer parent opening (closing + 1) position := by
  induction tree generalizing outer parent opening closing position with
  | leaf condition => rfl
  | branch connective left right ihLeft ihRight =>
    simp only [emit]
    rw [List.modifyLast_append_of_right_ne_nil _ _ _ (List.cons_ne_nil _ _),
      ← List.singleton_append,
      List.modifyLast_append_of_right_ne_nil _ _ _ (emit_ne_nil _ _ _ _ _ right), ihRight,
      UInt16.add_assoc, UInt16.add_assoc, UInt16.add_comm 1]
    rfl

theorem modify_hung_emit (above : Nat) (tree : Tree Condition) :
    (tree.emit outer parent opening closing position).modify tree.top (Node.hung above) =
      tree.emit outer (some above) opening closing position := by
  cases tree with
  | leaf condition => rfl
  | branch connective left right =>
    rw [emit, top, modify_append_cons _ (length_emit _ _ _ _ _ left).symm]
    rfl

end

theorem connective?_nodes (connective : Connective) (left right : Tree Condition) :
    Segment.connective? ⟨(branch connective left right).nodes, left.size⟩ = some connective := by
  rw [Segment.connective?, nodes, emit,
    Worklist.getElem?_append_cons (length_emit _ _ _ _ _ left).symm]
  rfl

/-- As a side of a connective, the nodes of a tree are what it emits under that connective. -/
theorem placed_under (outer : Connective) (distance parent : Nat) (tree : Tree Condition) :
    (Segment.under outer ⟨tree.nodes, tree.top⟩).placed distance parent =
      tree.emit (some outer) (some parent) 0 0 distance := by
  have moved (opening closing : UInt16) : Segment.placed distance parent
      ⟨tree.emit none none opening closing 0, tree.top⟩ =
        tree.emit none (some parent) opening closing distance := by
    rw [Segment.placed, map_moved_emit, modify_hung_emit, Nat.zero_add]
  cases tree with
  | leaf condition => exact moved 0 0
  | branch connective left right =>
    rw [Segment.under, top, connective?_nodes]
    by_cases same : connective = outer
    · simp only [same, Option.isNone_some, Bool.false_or, beq_self_eq_true, if_true]
      rw [same] at moved
      refine (moved 0 0).trans ?_
      simp [emit]
    · have other : (some connective == some outer) = false := by simp [same]
      simp only [other, Option.isNone_some, Bool.or_self, Bool.false_eq_true, if_false]
      rw [nodes, modifyHead_opened_emit, modifyLast_closed_emit]
      refine (moved _ _).trans ?_
      simp [emit, Ne.symm same]

theorem segment_eq (tree : Tree Condition) : tree.segment = ⟨tree.nodes, tree.top⟩ := by
  induction tree with
  | leaf condition => rfl
  | branch connective left right ihLeft ihRight =>
    have size : left.nodes.length = left.size := length_emit _ _ _ _ _ left
    rw [segment, ihLeft, ihRight, Segment.join]
    simp only [placed_under, size]
    simp [nodes, emit, top]

end Predicate.Tree

theorem Compile.segment_eq (scope : Scope) (expr : Expr) (negated : Bool) :
    segment scope expr negated = Tree.segment <$> tree scope expr negated := by
  fun_induction Expr.clauses expr negated with
  | case1 inner negated ih => exact ih
  | case2 connective left right negated ihLeft ihRight =>
    simp only [segment, tree, ihLeft, ihRight, map_bind, bind_map_left, map_pure]
    rfl
  | case3 expr negated noNegation noConnective =>
    rw [segment, tree.eq_3 scope expr negated noNegation noConnective]
    · simp only [map_bind, map_pure]
      rfl
    · exact noNegation
    · exact noConnective

end TypedSql
