import Mathlib.Algebra.Ring.Nat
import TypedSql.Proofs.Nesting.Standing
import TypedSql.Proofs.Reading

namespace TypedSql.Predicate

/-- A connective of a tree, with the first and the last index of what it holds together. -/
structure Part where
  connective : Nat
  first : Nat
  last : Nat
  isGrouped : Bool

namespace Part

def ends (part : Part) : Nat × Nat :=
  (part.first, part.last)

/-- What a part says of a connective is so in a list of nodes. -/
structure Holds (nodes : List Node) (part : Part) : Prop where
  sides : HasSides nodes part.connective
  spans : Spans nodes part.connective part.first part.last
  grouped : part.isGrouped ↔ IsGroupedAt nodes part.connective

end Part

/-- The parts are the groups of a list of nodes, each once. -/
structure AreGroups (nodes : List Node) (parts : List Part) : Prop where
  nodup : (parts.map Part.connective).Nodup
  connectives : ∀ index, index ∈ parts.map Part.connective ↔ IsGroupedAt nodes index
  spans : ∀ part ∈ parts, Spans nodes part.connective part.first part.last

/-- The groups between an opening parenthesis and the closing one that belongs to it, as the indices
where they begin and end and in the order in which they end. The groups that are open already are
given by where they begin, the innermost first. There is no result if a parenthesis closes no group
or a group stays open. -/
def groupEnds? (index : Nat) (isOpen : List Nat) : List Node → Option (List (Nat × Nat))
  | [] => if isOpen = [] then some [] else none
  | node :: rest =>
    let isOpen := List.replicate node.opening.toNat index ++ isOpen
    let closing := node.closing.toNat
    if closing ≤ isOpen.length then do
      let later ← groupEnds? (index + 1) (isOpen.drop closing) rest
      return (isOpen.take closing).map (·, index) ++ later
    else
      none

def openings (nodes : List Node) : Nat :=
  (nodes.map fun node => node.opening.toNat).sum

def closings (nodes : List Node) : Nat :=
  (nodes.map fun node => node.closing.toNat).sum

/-- No more parentheses close than were opened up to there, and in the end all are closed. -/
def Balanced (nodes : List Node) : Prop :=
  (∀ count, closings (nodes.take count) ≤ openings (nodes.take count)) ∧
    closings nodes = openings nodes

theorem groupEnds?_cons {index : Nat} {isOpen : List Nat} {node : Node} {rest : List Node}
    {ends : List (Nat × Nat)} :
    groupEnds? index isOpen (node :: rest) = some ends ↔
      node.closing.toNat ≤ node.opening.toNat + isOpen.length ∧
        ∃ later,
          groupEnds? (index + 1)
              ((List.replicate node.opening.toNat index ++ isOpen).drop node.closing.toNat) rest =
            some later ∧
          ((List.replicate node.opening.toNat index ++ isOpen).take node.closing.toNat).map
              (·, index) ++ later = ends := by
  simp only [groupEnds?, List.length_append, List.length_replicate]
  split
  · next enough => simp only [enough, true_and, bind, Option.bind_eq_some_iff, pure,
      Option.some.injEq]
  · next short => simp [short]

theorem balanced_of_groupEnds? {nodes : List Node} {index : Nat} {isOpen : List Nat}
    {ends : List (Nat × Nat)} (grouped : groupEnds? index isOpen nodes = some ends) :
    (∀ count, closings (nodes.take count) ≤ isOpen.length + openings (nodes.take count)) ∧
      closings nodes = isOpen.length + openings nodes := by
  induction nodes generalizing index isOpen ends with
  | nil =>
    simp only [groupEnds?] at grouped
    split at grouped
    · next closed => simp [closed, closings, openings]
    · contradiction
  | cons node rest ih =>
    obtain ⟨enough, later, grouped, -⟩ := groupEnds?_cons.mp grouped
    have further := ih grouped
    simp only [List.length_drop, List.length_append, List.length_replicate] at further
    constructor
    · intro count
      cases count with
      | zero => simp [closings]
      | succ count =>
        have := further.1 count
        simp only [closings, openings, List.take_succ_cons, List.map_cons, List.sum_cons] at *
        omega
    · have := further.2
      simp only [closings, openings, List.map_cons, List.sum_cons] at *
      omega

namespace Tree

/-- The parts of a tree that stands from an index on under an outer connective, each behind those
within it. -/
def parts {α : Type} (outer : Option Connective) (start : Nat) : Tree α → List Part
  | leaf _ => []
  | branch connective left right =>
    let middle := start + left.size
    left.parts (some connective) start ++ (right.parts (some connective) (middle + 1) ++
      [⟨middle, start, middle + right.size, isGrouped outer connective⟩])

def groups {α : Type} (outer : Option Connective) (start : Nat) (tree : Tree α) : List Part :=
  (tree.parts outer start).filter Part.isGrouped

section

variable {α : Type} {tree : Tree α} {outer : Option Connective} {start : Nat}

theorem part_within {part : Part} (member : part ∈ tree.parts outer start) :
    Within start tree.size part.connective ∧ Within start tree.size part.first ∧
      Within start tree.size part.last := by
  induction tree generalizing outer start with
  | leaf => contradiction
  | branch connective left right ihLeft ihRight =>
    simp only [parts, List.mem_append, List.mem_singleton] at member
    simp only [within_branch]
    rcases member with member | member | rfl
    · obtain ⟨own, first, last⟩ := ihLeft member
      exact ⟨.inl own, .inl first, .inl last⟩
    · obtain ⟨own, first, last⟩ := ihRight member
      exact ⟨.inr (.inr own), .inr (.inr first), .inr (.inr last)⟩
    · have := left.size_odd
      have := right.size_odd
      refine ⟨.inr (.inl rfl), .inl ⟨Nat.le_refl _, ?_⟩, .inr (.inr ⟨?_, ?_⟩)⟩
      all_goals
        simp only
        omega

theorem nodup_parts (tree : Tree α) (outer : Option Connective) (start : Nat) :
    ((tree.parts outer start).map Part.connective).Nodup := by
  induction tree generalizing outer start with
  | leaf => exact List.nodup_nil
  | branch connective left right ihLeft ihRight =>
    simp only [parts, List.map_append, List.map_cons, List.map_nil]
    have before {index : Nat}
        (member : index ∈ (left.parts (some connective) start).map Part.connective) :
        index < start + left.size := by
      obtain ⟨part, within, rfl⟩ := List.mem_map.mp member
      exact (part_within within).1.2
    have behind {index : Nat} (member : index ∈
        (right.parts (some connective) (start + left.size + 1)).map Part.connective) :
        start + left.size < index := by
      obtain ⟨part, within, rfl⟩ := List.mem_map.mp member
      exact (part_within within).1.1
    refine (ihLeft _ _).append ((ihRight _ _).append (List.nodup_singleton _) ?_) ?_
    · intro index first second
      exact absurd (behind first) (by simp_all)
    · intro index first second
      have := before first
      rcases List.mem_append.mp second with second | second
      · have := behind second
        omega
      · simp_all

end

/-- The group of its own that a connective opens at an index, if it has one. -/
def ownGroup (outer : Option Connective) (connective : Connective) (start : Nat) : List Nat :=
  if isGrouped outer connective then [start] else []

section

variable {outer : Option Connective} {connective : Connective} {start : Nat}

theorem length_ownGroup :
    (ownGroup outer connective start).length = if isGrouped outer connective then 1 else 0 := by
  unfold ownGroup
  cases isGrouped outer connective <;> rfl

theorem replicate_ownGroup :
    List.replicate (ownGroup outer connective start).length start =
      ownGroup outer connective start := by
  unfold ownGroup
  cases isGrouped outer connective <;> rfl

theorem groups_branch {α : Type} (left right : Tree α) :
    (branch connective left right).groups outer start =
      left.groups (some connective) start ++
        (right.groups (some connective) (start + left.size + 1) ++
          (ownGroup outer connective start).map fun first =>
            ⟨start + left.size, first, start + left.size + right.size, true⟩) := by
  unfold ownGroup
  cases grouped : isGrouped outer connective <;> simp [groups, parts, grouped]

end

/-- As long as the counters hold the true numbers, the groups of a tree are those around its
grouped connectives. The closing parentheses behind them end groups that began before or at the
tree. -/
theorem groupEnds?_emit (tree : Tree Condition) {outer : Option Connective}
    {opening closing : UInt16} (parent : Option Nat) (start : Nat) {isOpen : List Nat}
    {rest : List Node} {later : List (Nat × Nat)}
    (bounded : ∀ count ∈ tree.counts outer opening.toNat closing.toNat,
      count.1 < 65536 ∧ count.2 < 65536)
    (enough : closing.toNat ≤ opening.toNat + isOpen.length)
    (further : groupEnds? (start + tree.size)
      ((List.replicate opening.toNat start ++ isOpen).drop closing.toNat) rest = some later) :
    groupEnds? start isOpen (tree.emit outer parent opening closing start ++ rest) =
      some ((tree.groups outer start).map Part.ends ++
        (((List.replicate opening.toNat start ++ isOpen).take closing.toNat).map
          (·, start + tree.size - 1) ++ later)) := by
  induction tree generalizing outer opening closing parent start isOpen rest later with
  | leaf condition => exact groupEnds?_cons.mpr ⟨enough, later, further, rfl⟩
  | branch connective left right ihLeft ihRight =>
    simp only [counts, List.mem_append] at bounded
    have boundedLeft := fun count member => bounded count (.inl member)
    have boundedRight := fun count member => bounded count (.inr member)
    have opened := toNat_add_group (counts_bound boundedLeft).1
    have closed := toNat_add_group (counts_bound boundedRight).2
    rw [← opened] at boundedLeft
    rw [← closed] at boundedRight
    let own := ownGroup outer connective start
    rw [← @length_ownGroup _ _ start, Nat.add_comm] at opened closed
    -- The right side begins with the group of the connective as the innermost open one, and its
    -- last leaf closes this one first.
    have inner : List.replicate (opening + if isGrouped outer connective then 1 else 0).toNat start
        ++ isOpen = own ++ (List.replicate opening.toNat start ++ isOpen) := by
      rw [opened, List.replicate_add, replicate_ownGroup, List.append_assoc]
    have size : start + (branch connective left right).size =
        start + left.size + 1 + right.size := by
      simp only [Tree.size]
      omega
    rw [size] at further
    have last := @ihRight (some connective) 0 _ (some (start + left.size)) (start + left.size + 1)
      (own ++ (List.replicate opening.toNat start ++ isOpen)) rest later boundedRight
      (by rw [closed]; simpa [own, Nat.add_comm] using enough)
      (by rw [closed]; simpa [own, List.drop_length_add_append] using further)
    rw [emit, group_eq, List.append_assoc, List.cons_append, ihLeft _ _ boundedLeft
      (Nat.zero_le _) (groupEnds?_cons.mpr ⟨Nat.zero_le _, _, inner ▸ last, rfl⟩)]
    have behind : start + left.size + 1 + right.size - 1 = start + left.size + right.size := by
      omega
    simp only [UInt16.toNat_zero, List.replicate_zero, List.nil_append, List.take_zero,
      List.map_nil, closed, inner, own, List.take_length_add_append, List.map_append, List.map_map,
      List.append_assoc, groups_branch, size, behind]
    rfl

/-- The groups in the nodes of a tree are those around its grouped connectives. -/
theorem groupEnds?_nodes {tree : Tree Condition} (fits : tree.Fits) :
    groupEnds? 0 [] tree.nodes = some ((tree.groups none 0).map Part.ends) := by
  have grouped := @groupEnds?_emit tree none 0 0 none 0 [] [] [] fits (Nat.zero_le _) rfl
  simpa [nodes] using grouped

end Tree

namespace Stands

variable {nodes : List Node} {above : Option (Nat × Connective)} {start : Nat}
  {tree : Tree Condition}

theorem isGrouped_iff {connective : Connective} {left right : Tree Condition}
    (stands : Stands nodes above start (.branch connective left right))
    (apart : Apart nodes above start (Tree.branch connective left right).size) :
    Tree.isGrouped (above.map Prod.snd) connective ↔ IsGroupedAt nodes (start + left.size) := by
  cases stands with
  | @branch _ _ node _ _ _ found content _ parent _ _ =>
    have own : ConnectiveAt nodes (start + left.size) connective := ⟨node, found, content⟩
    rcases above with _ | ⟨above, outer⟩
    · refine ⟨fun grouped => absurd grouped (by simp [Tree.isGrouped]), ?_⟩
      rintro ⟨_, _, _, _, ⟨_, found', hung⟩, _⟩
      cases found.symm.trans found'
      cases parent.symm.trans hung
    · have hung : ChildOf nodes above (start + left.size) := ⟨node, found, parent⟩
      have held := (apart.outside above outer rfl).1
      have grouped : Tree.isGrouped (some outer) connective ↔ outer ≠ connective := by
        simp [Tree.isGrouped]
      refine grouped.trans ⟨fun other => ⟨connective, outer, above, own, hung, held, other⟩, ?_⟩
      rintro ⟨_, _, _, own', hung', held', other⟩
      obtain rfl := own.unique own'
      obtain rfl := hung.unique hung'
      obtain rfl := held.unique held'
      exact other

theorem parts_hold (stands : Stands nodes above start tree)
    (apart : Apart nodes above start tree.size) {part : Part}
    (member : part ∈ tree.parts (above.map Prod.snd) start) : part.Holds nodes := by
  induction stands with
  | leaf => contradiction
  | @branch above start node connective left right found content position parent first last ihLeft
      ihRight =>
    have stands := Stands.branch found content position parent first last
    obtain ⟨apartLeft, apartRight⟩ := stands.apart_sides apart
    simp only [Tree.parts, List.mem_append, List.mem_singleton] at member
    rcases member with member | member | rfl
    · exact ihLeft apartLeft member
    · exact ihRight apartRight member
    · refine ⟨stands.hasSides apart, ?_, stands.isGrouped_iff apart⟩
      have last : start + (Tree.branch connective left right).size - 1 =
          start + left.size + right.size := by
        simp only [Tree.size]
        omega
      exact last ▸ stands.spans apart

theorem exists_part (stands : Stands nodes above start tree) {index : Nat}
    {connective : Connective} (inside : Within start tree.size index)
    (held : ConnectiveAt nodes index connective) :
    ∃ part ∈ tree.parts (above.map Prod.snd) start, part.connective = index := by
  induction stands with
  | leaf found content =>
    obtain ⟨node, found', content'⟩ := held
    rw [Tree.within_leaf.mp inside] at found'
    cases found.symm.trans found'
    cases content.symm.trans content'
  | branch _ _ _ _ _ _ ihLeft ihRight =>
    simp only [Tree.parts, List.mem_append, List.mem_singleton]
    rcases Tree.within_branch.mp inside with inside | rfl | inside
    · obtain ⟨part, member, same⟩ := ihLeft inside
      exact ⟨part, .inl member, same⟩
    · exact ⟨_, .inr (.inr rfl), rfl⟩
    · obtain ⟨part, member, same⟩ := ihRight inside
      exact ⟨part, .inr (.inl member), same⟩

end Stands

end TypedSql.Predicate
