import TypedSql.Predicate.Operand

namespace TypedSql

/-- A condition without connectives. -/
inductive Condition where
  | comparison (comparison : Comparison) (left right : Operand)
  | test (kind : Test) (receiver : Operand) (arguments : List Operand) (negated : Bool)
  | constant (value : Bool)

namespace Predicate

inductive Tree (α : Type) where
  | leaf (value : α)
  | branch (connective : Connective) (left right : Tree α)

def Tree.size {α : Type} : Tree α → Nat
  | leaf _ => 1
  | branch _ left right => left.size + 1 + right.size

inductive Content where
  | condition (condition : Condition)
  | connective (connective : Connective)

/-- One piece of a predicate written out from left to right. `parent` is the position of the
connective it stands under; `opening` parentheses precede it and `closing` ones follow it. -/
structure Node where
  content : Content
  parent : Option Nat
  opening : UInt16
  closing : UInt16
  position : Nat

def Node.isConnective (node : Node) : Bool :=
  match node.content with
  | .condition _ => false
  | .connective _ => true

/-- Writes out a tree of conditions from a position on, under an outer connective. A tree under
another connective than its own stands in parentheses, which its first and its last condition
carry. -/
def Tree.emit (outer : Option Connective) (parent : Option Nat) (opening closing : UInt16)
    (position : Nat) : Tree Condition → List Node
  | leaf condition => [⟨.condition condition, parent, opening, closing, position⟩]
  | branch connective left right =>
    let group := if outer.isNone || outer == some connective then 0 else 1
    let middle := position + left.size
    left.emit (some connective) (some middle) (opening + group) 0 position ++
      ⟨.connective connective, parent, 0, 0, middle⟩ ::
        right.emit (some connective) (some middle) 0 (closing + group) (middle + 1)

def Tree.nodes (tree : Tree Condition) : List Node :=
  tree.emit none none 0 0 0

end Predicate

structure Predicate where
  nodes : List Predicate.Node

def Predicate.hasConnectives (predicate : Predicate) : Bool :=
  predicate.nodes.any Predicate.Node.isConnective

end TypedSql
