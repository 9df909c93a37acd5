import TypedSql.Proofs.Worklist.Segments

namespace TypedSql.Predicate

section

variable (nodes : List Node)

def ConnectiveAt (index : Nat) (connective : Connective) : Prop :=
  ∃ node, nodes[index]? = some node ∧ node.content = .connective connective

def ChildOf (parent index : Nat) : Prop :=
  ∃ node, nodes[index]? = some node ∧ node.parent = some parent

inductive Under (top : Nat) : Nat → Prop
  | self : Under top top
  | child {parent index : Nat} (hung : ChildOf nodes parent index) (above : Under top parent) :
      Under top index

def Spans (top first last : Nat) : Prop :=
  ∀ index, Under nodes top index ↔ first ≤ index ∧ index ≤ last

def HasSides (index : Nat) : Prop :=
  ∃ left right, left < index ∧ index < right ∧
    ∀ child, ChildOf nodes index child ↔ child = left ∨ child = right

/-- A connective stands under another one than itself, and so in parentheses. -/
def IsGroupedAt (index : Nat) : Prop :=
  ∃ connective outer parent, ConnectiveAt nodes index connective ∧ ChildOf nodes parent index ∧
    ConnectiveAt nodes parent outer ∧ outer ≠ connective

def Within (start size index : Nat) : Prop :=
  start ≤ index ∧ index < start + size

/-- A tree stands in a list of nodes from an index on, under another index with a connective or as
the whole. -/
inductive Stands : Option (Nat × Connective) → Nat → Tree Condition → Prop
  | leaf {above : Option (Nat × Connective)} {index : Nat} {node : Node} {condition : Condition}
      (found : nodes[index]? = some node) (content : node.content = .condition condition)
      (position : node.position = index) (parent : node.parent = above.map Prod.fst) :
      Stands above index (.leaf condition)
  | branch {above : Option (Nat × Connective)} {index : Nat} {node : Node}
      {connective : Connective} {left right : Tree Condition}
      (found : nodes[index + left.size]? = some node)
      (content : node.content = .connective connective)
      (position : node.position = index + left.size) (parent : node.parent = above.map Prod.fst)
      (first : Stands (some (index + left.size, connective)) index left)
      (last : Stands (some (index + left.size, connective)) (index + left.size + 1) right) :
      Stands above index (.branch connective left right)

/-- What a tree hangs under is not in it, and no node of another tree hangs under one of it. -/
structure Apart (above : Option (Nat × Connective)) (start size : Nat) : Prop where
  outside : ∀ parent connective, above = some (parent, connective) →
    ConnectiveAt nodes parent connective ∧ ¬ Within start size parent
  closed : ∀ parent index, ChildOf nodes parent index → Within start size parent →
    Within start size index

end

variable {nodes : List Node} {above : Option (Nat × Connective)} {start : Nat}
  {tree : Tree Condition}

theorem ConnectiveAt.unique {index : Nat} {connective other : Connective}
    (first : ConnectiveAt nodes index connective) (second : ConnectiveAt nodes index other) :
    connective = other := by
  obtain ⟨node, found, content⟩ := first
  obtain ⟨node', found', content'⟩ := second
  cases found.symm.trans found'
  exact Content.connective.inj (content.symm.trans content')

theorem ChildOf.unique {parent other index : Nat} (first : ChildOf nodes parent index)
    (second : ChildOf nodes other index) : parent = other := by
  obtain ⟨node, found, hung⟩ := first
  obtain ⟨node', found', hung'⟩ := second
  cases found.symm.trans found'
  exact Option.some.inj (hung.symm.trans hung')

theorem Under.trans {top middle index : Nat} (first : Under nodes top middle)
    (last : Under nodes middle index) : Under nodes top index := by
  induction last with
  | self => exact first
  | child hung _ ih => exact .child hung ih

theorem Apart.within {size top index : Nat} (apart : Apart nodes above start size)
    (inside : Within start size top) (under : Under nodes top index) :
    Within start size index := by
  induction under with
  | self => exact inside
  | child hung _ ih => exact apart.closed _ _ hung ih

namespace Tree

variable {α : Type}

theorem size_odd (tree : Tree α) : tree.size % 2 = 1 := by
  induction tree with
  | leaf => rfl
  | branch connective left right ihLeft ihRight =>
    rw [size]
    omega

theorem top_lt_size (tree : Tree α) : tree.top < tree.size := by
  cases tree with
  | leaf => exact Nat.one_pos
  | branch connective left right =>
    rw [top, size]
    omega

theorem within_leaf {a : α} {start index : Nat} :
    Within start (leaf a).size index ↔ index = start := by
  simp only [Within, size]
  omega

theorem within_branch {connective : Connective} {left right : Tree α} {start index : Nat} :
    Within start (branch connective left right).size index ↔
      Within start left.size index ∨ index = start + left.size ∨
        Within (start + left.size + 1) right.size index := by
  simp only [Within, size]
  omega

theorem stands_emit (tree : Tree Condition) {before after : List Node} {opening closing : UInt16}
    (here : start = before.length) :
    Stands (before ++ (tree.emit (above.map Prod.snd) (above.map Prod.fst) opening closing start ++
      after)) above start tree := by
  induction tree generalizing above start opening closing before after with
  | leaf condition => exact .leaf (Worklist.getElem?_append_cons here) rfl rfl rfl
  | branch connective left right ihLeft ihRight =>
    have middle {outer : Option Connective} {parent : Option Nat} {opening closing : UInt16} :
        start + left.size =
          (before ++ left.emit outer parent opening closing start).length := by
      rw [List.length_append, length_emit, here]
    simp only [emit, List.append_assoc, List.cons_append]
    rw [← List.append_assoc before]
    refine .branch (Worklist.getElem?_append_cons middle) rfl rfl rfl ?_ ?_
    · rw [List.append_assoc]
      exact @ihLeft (some (start + left.size, connective)) _ _ _ _ _ here
    · rw [List.append_cons]
      exact @ihRight (some (start + left.size, connective)) _ _ _ _ _
        (Worklist.left_start middle)

end Tree

namespace Stands

theorem top (stands : Stands nodes above start tree) :
    ∃ node, nodes[start + tree.top]? = some node ∧ node.parent = above.map Prod.fst := by
  cases stands with
  | leaf found _ _ parent => exact ⟨_, found, parent⟩
  | branch found _ _ parent _ _ => exact ⟨_, found, parent⟩

theorem childOf_top {parent : Nat} {connective : Connective}
    (stands : Stands nodes (some (parent, connective)) start tree) :
    ChildOf nodes parent (start + tree.top) :=
  stands.top

/-- Conditions and connectives take turns in a tree, each at the position it says. -/
theorem at_index (stands : Stands nodes above start tree) {index : Nat}
    (inside : Within start tree.size index) :
    ∃ node, nodes[index]? = some node ∧ node.position = index ∧
      (node.isConnective ↔ (index - start) % 2 = 1) := by
  induction stands with
  | @leaf above start node condition found content position parent =>
    obtain rfl := Tree.within_leaf.mp inside
    exact ⟨node, found, position, by simp [Node.isConnective, content]⟩
  | @branch above start node connective left right found content position parent _ _ ihLeft
      ihRight =>
    -- The right side begins behind an odd number of nodes and the connective, at a condition again.
    have odd := left.size_odd
    rcases Tree.within_branch.mp inside with inside | rfl | inside
    · exact ihLeft inside
    · exact ⟨node, found, position, by simp [Node.isConnective, content, odd]⟩
    · obtain ⟨node, found, position, turn⟩ := ihRight inside
      have := inside.1
      exact ⟨node, found, position, turn.trans (by omega)⟩

theorem parent_within (stands : Stands nodes above start tree) {index : Nat}
    (inside : Within start tree.size index) (deeper : index ≠ start + tree.top) :
    ∃ parent connective, ChildOf nodes parent index ∧ Within start tree.size parent ∧
      ConnectiveAt nodes parent connective := by
  induction stands with
  | leaf found content position parent => exact absurd (Tree.within_leaf.mp inside) deeper
  | @branch above start node connective left right found content position parent first last ihLeft
      ihRight =>
    have middle : Within start (Tree.branch connective left right).size (start + left.size) :=
      Tree.within_branch.mpr (.inr (.inl rfl))
    rcases Tree.within_branch.mp inside with inside | rfl | inside
    · by_cases outermost : index = start + left.top
      · exact ⟨_, connective, outermost ▸ first.childOf_top, middle, node, found, content⟩
      · obtain ⟨parent, other, hung, inner, held⟩ := ihLeft inside outermost
        exact ⟨parent, other, hung, Tree.within_branch.mpr (.inl inner), held⟩
    · exact absurd rfl deeper
    · by_cases outermost : index = start + left.size + 1 + right.top
      · exact ⟨_, connective, outermost ▸ last.childOf_top, middle, node, found, content⟩
      · obtain ⟨parent, other, hung, inner, held⟩ := ihRight inside outermost
        exact ⟨parent, other, hung, Tree.within_branch.mpr (.inr (.inr inner)), held⟩

theorem under (stands : Stands nodes above start tree) {index : Nat}
    (inside : Within start tree.size index) : Under nodes (start + tree.top) index := by
  induction stands with
  | leaf found content position parent =>
    rw [Tree.within_leaf.mp inside]
    exact .self
  | branch found content position parent first last ihLeft ihRight =>
    rcases Tree.within_branch.mp inside with inside | rfl | inside
    · exact (Under.child first.childOf_top .self).trans (ihLeft inside)
    · exact .self
    · exact (Under.child last.childOf_top .self).trans (ihRight inside)

theorem parent_cases (stands : Stands nodes above start tree) {parent index : Nat}
    (hung : ChildOf nodes parent index) (inside : Within start tree.size index) :
    Within start tree.size parent ∨
      above.map Prod.fst = some parent ∧ index = start + tree.top := by
  by_cases outermost : index = start + tree.top
  · obtain ⟨node, found, outer⟩ := stands.top
    obtain ⟨node', found', hung⟩ := hung
    rw [outermost] at found'
    cases found.symm.trans found'
    exact .inr ⟨outer.symm.trans hung, outermost⟩
  · obtain ⟨other, _, hung', within, _⟩ := stands.parent_within inside outermost
    exact .inl (hung.unique hung' ▸ within)

section

variable {connective : Connective} {left right : Tree Condition}

/-- A node that hangs under one of a connective and its sides is on one of the sides: under a node
of this side, or under the connective and then the outermost node there. -/
theorem child_cases (stands : Stands nodes above start (.branch connective left right))
    (apart : Apart nodes above start (Tree.branch connective left right).size)
    {parent index : Nat} (hung : ChildOf nodes parent index)
    (inside : Within start (Tree.branch connective left right).size parent) :
    Within start left.size index ∧
        (Within start left.size parent ∨
          parent = start + left.size ∧ index = start + left.top) ∨
      Within (start + left.size + 1) right.size index ∧
        (Within (start + left.size + 1) right.size parent ∨
          parent = start + left.size ∧ index = start + left.size + 1 + right.top) := by
  cases stands with
  | branch found content position outer first last =>
    rcases Tree.within_branch.mp (apart.closed _ _ hung inside) with below | rfl | below
    · refine .inl ⟨below, (first.parent_cases hung below).imp_right ?_⟩
      exact fun ⟨same, outermost⟩ => ⟨(Option.some.inj same).symm, outermost⟩
    -- The connective itself hangs under what is around the tree, which is not within it.
    · obtain ⟨node, found', hung⟩ := hung
      cases found.symm.trans found'
      obtain ⟨⟨_, other⟩, held, rfl⟩ := Option.map_eq_some_iff.mp (outer.symm.trans hung)
      exact absurd inside (apart.outside _ other held).2
    · refine .inr ⟨below, (last.parent_cases hung below).imp_right ?_⟩
      exact fun ⟨same, outermost⟩ => ⟨(Option.some.inj same).symm, outermost⟩

theorem apart_sides (stands : Stands nodes above start (.branch connective left right))
    (apart : Apart nodes above start (Tree.branch connective left right).size) :
    Apart nodes (some (start + left.size, connective)) start left.size ∧
      Apart nodes (some (start + left.size, connective)) (start + left.size + 1) right.size := by
  have held : ConnectiveAt nodes (start + left.size) connective := by
    cases stands with
    | branch found content => exact ⟨_, found, content⟩
  refine ⟨⟨?_, fun parent index hung inside => ?_⟩, ⟨?_, fun parent index hung inside => ?_⟩⟩
  · rintro _ _ ⟨⟩
    exact ⟨held, fun inside => Nat.lt_irrefl _ inside.2⟩
  · have cases := stands.child_cases apart hung (Tree.within_branch.mpr (.inl inside))
    simp only [Within] at *
    omega
  · rintro _ _ ⟨⟩
    exact ⟨held, fun inside => Nat.not_succ_le_self _ inside.1⟩
  · have cases := stands.child_cases apart hung (Tree.within_branch.mpr (.inr (.inr inside)))
    simp only [Within] at *
    omega

theorem hasSides (stands : Stands nodes above start (.branch connective left right))
    (apart : Apart nodes above start (Tree.branch connective left right).size) :
    HasSides nodes (start + left.size) := by
  have := left.top_lt_size
  refine ⟨start + left.top, start + left.size + 1 + right.top, by omega, by omega, ?_⟩
  intro child
  constructor
  · intro hung
    have cases := stands.child_cases apart hung (Tree.within_branch.mpr (.inr (.inl rfl)))
    simp only [Within] at cases
    omega
  · cases stands with
    | branch found content position outer first last =>
      rintro (rfl | rfl)
      · exact first.childOf_top
      · exact last.childOf_top

end

theorem spans (stands : Stands nodes above start tree)
    (apart : Apart nodes above start tree.size) :
    Spans nodes (start + tree.top) start (start + tree.size - 1) := by
  have below := tree.top_lt_size
  intro index
  constructor
  · intro under
    have inside := apart.within ⟨Nat.le_add_right _ _, Nat.add_lt_add_left below _⟩ under
    exact ⟨inside.1, Nat.le_pred_of_lt inside.2⟩
  · intro ⟨behind, before⟩
    exact stands.under ⟨behind, by omega⟩

end Stands

end TypedSql.Predicate
