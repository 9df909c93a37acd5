import TypedSql.Proofs.Nesting.Groups

namespace TypedSql

namespace Predicate

/-- The nodes are those of a tree from left to right. -/
structure InOrder (nodes : List Node) : Prop where
  odd : nodes.length % 2 = 1
  positions : ∀ (index : Nat) (node : Node), nodes[index]? = some node → node.position = index
  /-- Conditions and connectives take turns, and a condition comes first. -/
  turns : ∀ (index : Nat) (node : Node), nodes[index]? = some node →
    (node.isConnective ↔ index % 2 = 1)
  /-- All nodes stand under the one that has no parent. -/
  root : ∃ root < nodes.length, (∀ index < nodes.length, Under nodes root index) ∧
    ∀ (index : Nat) (node : Node), nodes[index]? = some node → (node.parent = none ↔ index = root)
  parents : ∀ parent index, ChildOf nodes parent index →
    ∃ connective, ConnectiveAt nodes parent connective
  sides : ∀ index connective, ConnectiveAt nodes index connective → HasSides nodes index
  spans : ∀ index connective, ConnectiveAt nodes index connective →
    ∃ first last, Spans nodes index first last

/-- The parentheses of the nodes are balanced, and each group holds together what stands under one
connective under another one. -/
structure Grouped (nodes : List Node) : Prop where
  balanced : Balanced nodes
  groups : ∃ parts, AreGroups nodes parts ∧ groupEnds? 0 [] nodes = some (parts.map Part.ends)

namespace Tree

variable (tree : Tree Condition)

theorem length_nodes : tree.nodes.length = tree.size :=
  tree.length_emit none none 0 0 0

theorem stands_nodes : Stands tree.nodes none 0 tree := by
  simpa [nodes] using @stands_emit none 0 tree [] [] 0 0 rfl

variable {tree} {index : Nat} {node : Node}

theorem within_nodes (found : tree.nodes[index]? = some node) : Within 0 tree.size index := by
  have := (List.getElem?_eq_some_iff.mp found).1
  exact ⟨Nat.zero_le index, by rwa [Nat.zero_add, ← tree.length_nodes]⟩

theorem apart_nodes : Apart tree.nodes none 0 tree.size := by
  refine ⟨fun _ _ held => (Option.some_ne_none _ held.symm).elim, ?_⟩
  rintro _ index ⟨node, found, _⟩ _
  exact within_nodes found

theorem at_nodes (found : tree.nodes[index]? = some node) :
    node.position = index ∧ (node.isConnective ↔ index % 2 = 1) := by
  obtain ⟨other, found', held⟩ := tree.stands_nodes.at_index (within_nodes found)
  cases found.symm.trans found'
  exact held

theorem parent_nodes (found : tree.nodes[index]? = some node) :
    node.parent = none ↔ index = tree.top := by
  constructor
  · intro root
    by_contra deeper
    obtain ⟨_, _, ⟨_, found', hung⟩, _⟩ := tree.stands_nodes.parent_within (within_nodes found)
      (by rwa [Nat.zero_add])
    cases found.symm.trans found'
    cases root.symm.trans hung
  · rintro rfl
    obtain ⟨other, found', root⟩ := tree.stands_nodes.top
    rw [Nat.zero_add] at found'
    cases found.symm.trans found'
    exact root

theorem part_nodes {connective : Connective} (held : ConnectiveAt tree.nodes index connective) :
    ∃ part ∈ tree.parts none 0, part.connective = index ∧ part.Holds tree.nodes := by
  obtain ⟨node, found, _⟩ := id held
  obtain ⟨part, member, same⟩ := tree.stands_nodes.exists_part (within_nodes found) held
  exact ⟨part, member, same, tree.stands_nodes.parts_hold apart_nodes member⟩

theorem inOrder_nodes (tree : Tree Condition) : InOrder tree.nodes where
  odd := tree.length_nodes ▸ tree.size_odd
  positions _ _ found := (at_nodes found).1
  turns _ _ found := (at_nodes found).2
  root := by
    refine ⟨tree.top, tree.length_nodes ▸ tree.top_lt_size, fun index inside => ?_,
      fun _ _ => parent_nodes⟩
    have inside : Within 0 tree.size index := by
      rw [tree.length_nodes] at inside
      exact ⟨Nat.zero_le _, by rwa [Nat.zero_add]⟩
    simpa using tree.stands_nodes.under inside
  parents := by
    rintro parent index ⟨node, found, hung⟩
    have deeper : index ≠ 0 + tree.top := by
      rw [Nat.zero_add]
      exact fun outermost => nomatch hung.symm.trans ((parent_nodes found).mpr outermost)
    obtain ⟨other, connective, hung', _, held⟩ :=
      tree.stands_nodes.parent_within (within_nodes found) deeper
    obtain rfl := hung'.unique ⟨node, found, hung⟩
    exact ⟨connective, held⟩
  sides _ _ held := by
    obtain ⟨part, _, rfl, holds⟩ := part_nodes held
    exact holds.sides
  spans _ _ held := by
    obtain ⟨part, _, rfl, holds⟩ := part_nodes held
    exact ⟨part.first, part.last, holds.spans⟩

theorem mem_groups_iff {part : Part} :
    part ∈ tree.groups none 0 ↔ part ∈ tree.parts none 0 ∧ part.isGrouped :=
  List.mem_filter

theorem areGroups_nodes (tree : Tree Condition) : AreGroups tree.nodes (tree.groups none 0) where
  nodup := (tree.nodup_parts none 0).sublist (List.filter_sublist.map _)
  connectives index := by
    constructor
    · intro member
      obtain ⟨part, isGroup, rfl⟩ := List.mem_map.mp member
      obtain ⟨member, grouped⟩ := mem_groups_iff.mp isGroup
      exact (tree.stands_nodes.parts_hold apart_nodes member).grouped.mp grouped
    · intro grouped
      obtain ⟨connective, _, _, held, _⟩ := id grouped
      obtain ⟨part, member, rfl, holds⟩ := part_nodes held
      exact List.mem_map_of_mem (mem_groups_iff.mpr ⟨member, holds.grouped.mpr grouped⟩)
  spans _ member :=
    (tree.stands_nodes.parts_hold apart_nodes (mem_groups_iff.mp member).1).spans

theorem grouped_nodes (fits : tree.Fits) : Grouped tree.nodes where
  balanced := by simpa [Balanced] using balanced_of_groupEnds? (groupEnds?_nodes fits)
  groups := ⟨_, tree.areGroups_nodes, groupEnds?_nodes fits⟩

end Tree

end Predicate

open Predicate (InOrder Grouped)

/-- A compiled predicate is a tree of conditions written out from left to right. As long as the
counters hold the true numbers, its parentheses stand around the connectives that stand under
another one than themselves, each around what stands under its connective. -/
theorem compile_in_order {expr : Expr} {scope : Scope} {before after : Parameters}
    {predicate : Predicate} (compiled : expr.compile scope before = (.ok predicate, after)) :
    InOrder predicate.nodes ∧ ((expr.clauses false).Fits → Grouped predicate.nodes) := by
  obtain ⟨tree, rfl, related, -⟩ := Expr.compile_ok compiled
  exact ⟨tree.inOrder_nodes, fun fits => Predicate.Tree.grouped_nodes (related.fits fits)⟩

/-- `(!(9 < Age || Name == NULL) || true) && false`, where two groups open at the first node. -/
def Expr.grouped (table : Table) : Expr :=
  .connect .and (.connect .or (.neitherOlderNorNameless table) (.literal (.bool true)))
    (.literal (.bool false))

theorem compile_in_order_grouped :
    ∃ predicate after,
      (Expr.grouped ⟨"", "", []⟩).compile (.single ⟨"", "", []⟩) .empty = (.ok predicate, after) ∧
      InOrder predicate.nodes ∧ Grouped predicate.nodes ∧
      Predicate.groupEnds? 0 [] predicate.nodes = some [(0, 2), (0, 4)] := by
  have compiled : (Expr.grouped ⟨"", "", []⟩).compile (.single ⟨"", "", []⟩) .empty =
      (.ok _, _) := rfl
  obtain ⟨inOrder, grouped⟩ := compile_in_order compiled
  exact ⟨_, _, compiled, inOrder, grouped (by decide), rfl⟩

end TypedSql
