import Mathlib.Data.Set.Card
import TypedSql.Proofs.Nesting.Groups

namespace TypedSql.Predicate

variable {nodes : List Node}

theorem Spans.unique {top first last first' last' : Nat} (spans : Spans nodes top first last)
    (spans' : Spans nodes top first' last') : first = first' ∧ last = last' := by
  have inside := (spans top).mp .self
  have inside' := (spans' top).mp .self
  have begins := (spans' first).mp ((spans first).mpr (by omega))
  have begins' := (spans first').mp ((spans' first').mpr (by omega))
  have ends := (spans' last).mp ((spans last).mpr (by omega))
  have ends' := (spans last').mp ((spans' last').mpr (by omega))
  omega

def Node.counters (node : Node) : Nat × Nat :=
  (node.opening.toNat, node.closing.toNat)

section

variable (nodes)

/-- How many groups begin at an index. -/
noncomputable def groupsFrom (first : Nat) : Nat :=
  {index | IsGroupedAt nodes index ∧ ∃ last, Spans nodes index first last}.ncard

/-- How many groups end at an index. -/
noncomputable def groupsTo (last : Nat) : Nat :=
  {index | IsGroupedAt nodes index ∧ ∃ first, Spans nodes index first last}.ncard

/-- The counters of each node are the numbers of groups that begin and that end there. -/
def CountersHold : Prop :=
  ∀ (index : Nat) (node : Node), nodes[index]? = some node →
    node.counters = (groupsFrom nodes index, groupsTo nodes index)

end

namespace AreGroups

variable {parts : List Part} (areGroups : AreGroups nodes parts)

include areGroups

theorem ncard {P : Nat → Prop} {p : Part → Bool}
    (same : ∀ part ∈ parts, P part.connective ↔ p part) :
    {index | IsGroupedAt nodes index ∧ P index}.ncard = parts.countP p := by
  have listed : {index | IsGroupedAt nodes index ∧ P index} =
      (((parts.filter p).map Part.connective).toFinset : Set Nat) := by
    ext index
    simp only [Set.mem_ofPred_eq, List.coe_toFinset, ← areGroups.connectives]
    constructor
    · rintro ⟨isGroup, held⟩
      obtain ⟨part, member, rfl⟩ := List.mem_map.mp isGroup
      exact List.mem_map_of_mem (List.mem_filter.mpr ⟨member, (same part member).mp held⟩)
    · intro isGroup
      obtain ⟨part, chosen, rfl⟩ := List.mem_map.mp isGroup
      obtain ⟨member, held⟩ := List.mem_filter.mp chosen
      exact ⟨List.mem_map_of_mem member, (same part member).mpr held⟩
  rw [listed, Set.ncard_coe_finset, List.toFinset_card_of_nodup, List.length_map,
    List.countP_eq_length_filter]
  exact areGroups.nodup.sublist (List.filter_sublist.map _)

theorem groupsFrom_eq (first : Nat) :
    groupsFrom nodes first = (parts.map Part.first).count first := by
  rw [List.count, List.countP_map]
  refine areGroups.ncard fun part member => ?_
  have spans := areGroups.spans part member
  simp only [Function.comp_apply, beq_iff_eq]
  exact ⟨fun ⟨_, other⟩ => (spans.unique other).1, fun same => ⟨_, same ▸ spans⟩⟩

theorem groupsTo_eq (last : Nat) :
    groupsTo nodes last = (parts.map Part.last).count last := by
  rw [List.count, List.countP_map]
  refine areGroups.ncard fun part member => ?_
  have spans := areGroups.spans part member
  simp only [Function.comp_apply, beq_iff_eq]
  exact ⟨fun ⟨_, other⟩ => (spans.unique other).2, fun same => ⟨_, same ▸ spans⟩⟩

end AreGroups

namespace Tree

variable {α : Type}

/-- The numbers of groups that open before and close after each node, beside those that are there
already. -/
def tallies (outer : Option Connective) (opening closing : Nat) : Tree α → List (Nat × Nat)
  | leaf _ => [(opening, closing)]
  | branch connective left right =>
    let group := if isGrouped outer connective then 1 else 0
    left.tallies (some connective) (opening + group) 0 ++
      (0, 0) :: right.tallies (some connective) 0 (closing + group)

/-- How often the connective changes on the way from an outer one to a leaf, at most. -/
def alternations (outer : Option Connective) : Tree α → Nat
  | leaf _ => 0
  | branch connective left right =>
    (if isGrouped outer connective then 1 else 0) +
      max (left.alternations (some connective)) (right.alternations (some connective))

section

variable {outer : Option Connective} {opening closing : Nat}

theorem tallies_le {tree : Tree α} {tally : Nat × Nat}
    (member : tally ∈ tree.tallies outer opening closing) :
    tally.1 ≤ opening + tree.alternations outer ∧ tally.2 ≤ closing + tree.alternations outer := by
  induction tree generalizing outer opening closing with
  | leaf =>
    rw [List.mem_singleton.mp member]
    exact ⟨Nat.le_refl _, Nat.le_refl _⟩
  | branch connective left right ihLeft ihRight =>
    simp only [tallies, List.mem_append, List.mem_cons] at member
    simp only [alternations]
    rcases member with member | rfl | member
    · have := ihLeft member
      omega
    · simp
    · have := ihRight member
      omega

theorem forall_tallies {P : Nat × Nat → Prop} (zero : P (0, 0)) (tree : Tree α) :
    (∀ tally ∈ tree.tallies outer opening closing, P tally) ↔
      ∀ count ∈ tree.counts outer opening closing, P count := by
  induction tree generalizing outer opening closing with
  | leaf => rfl
  | branch connective left right ihLeft ihRight =>
    simp only [tallies, counts, List.forall_mem_append, List.forall_mem_cons, zero, true_and,
      ihLeft, ihRight]

end

theorem fits_iff_tallies {tree : Tree α} :
    tree.Fits ↔ ∀ tally ∈ tree.tallies none 0 0, tally.1 < 65536 ∧ tally.2 < 65536 :=
  (forall_tallies (by decide) tree).symm

theorem fits_of_alternations {tree : Tree α} (bounded : tree.alternations none < 65536) :
    tree.Fits := by
  refine fits_iff_tallies.mpr fun tally member => ?_
  have := tallies_le member
  omega

theorem Related.alternations {β : Type} {R : α → β → Prop} {tree : Tree α} {other : Tree β}
    (related : Related R tree other) (outer : Option Connective) :
    tree.alternations outer = other.alternations outer := by
  induction related generalizing outer with
  | leaf related => rfl
  | branch _ _ first second => simp only [Tree.alternations, first, second]

/-- The groups of a tree that begin and that end at an index, beside those around it. -/
def tally (outer : Option Connective) (opening closing start : Nat) (tree : Tree α) (index : Nat) :
    Nat × Nat :=
  ((if index = start then opening else 0) + ((tree.groups outer start).map Part.first).count index,
    (if index + 1 = start + tree.size then closing else 0) +
      ((tree.groups outer start).map Part.last).count index)

section

variable {tree : Tree α} {outer : Option Connective} {start index : Nat}

theorem count_outside (outside : ¬ Within start tree.size index) :
    ((tree.groups outer start).map Part.first).count index = 0 ∧
      ((tree.groups outer start).map Part.last).count index = 0 := by
  constructor
  · refine List.count_eq_zero_of_not_mem fun member => outside ?_
    obtain ⟨part, isGroup, rfl⟩ := List.mem_map.mp member
    exact (part_within (List.mem_filter.mp isGroup).1).2.1
  · refine List.count_eq_zero_of_not_mem fun member => outside ?_
    obtain ⟨part, isGroup, rfl⟩ := List.mem_map.mp member
    exact (part_within (List.mem_filter.mp isGroup).1).2.2

theorem tally_outside {opening closing : Nat} (outside : ¬ Within start tree.size index) :
    tree.tally outer opening closing start index = 0 := by
  obtain ⟨first, last⟩ := @count_outside _ tree outer start index outside
  have inside := tree.top_lt_size
  simp only [Within] at outside
  rw [tally, first, last, if_neg (by omega), if_neg (by omega)]
  rfl

/-- The groups that begin or end at an index do so on one side of a connective. The group of its
own counts among those around its sides. -/
theorem tally_branch {connective : Connective} {left right : Tree α} {opening closing : Nat} :
    (branch connective left right).tally outer opening closing start index =
      left.tally (some connective) (opening + if isGrouped outer connective then 1 else 0) 0 start
          index +
        right.tally (some connective) 0 (closing + if isGrouped outer connective then 1 else 0)
          (start + left.size + 1) index := by
  have ends : start + (branch connective left right).size = start + left.size + 1 + right.size := by
    simp only [Tree.size]
    omega
  have last : index + 1 = start + left.size + 1 + right.size ↔
      index = start + left.size + right.size := by omega
  simp only [tally, ends, last, groups_branch, List.map_append, List.count_append, List.map_map,
    ownGroup]
  cases isGrouped outer connective with
  | false =>
    simp only [Bool.false_eq_true, if_false, List.map_nil, List.count_nil, ite_self, Nat.add_zero]
    refine Prod.ext ?_ ?_ <;> simp only [Prod.fst_add, Prod.snd_add] <;> omega
  | true =>
    simp only [if_true, List.map_cons, List.map_nil, Function.comp_apply, List.count_singleton,
      beq_iff_eq, ite_self]
    refine Prod.ext ?_ ?_ <;> simp only [Prod.fst_add, Prod.snd_add] <;> split <;> split <;> omega

end

theorem tallies_eq (tree : Tree α) (outer : Option Connective) (opening closing start : Nat) :
    tree.tallies outer opening closing =
      (List.range' start tree.size).map (tree.tally outer opening closing start) := by
  induction tree generalizing outer opening closing start with
  | leaf a => simp [tallies, tally, groups, parts, Tree.size]
  | branch connective left right ihLeft ihRight =>
    have split : List.range' start (branch connective left right).size =
        List.range' start left.size ++ (start + left.size) ::
          List.range' (start + left.size + 1) right.size := by
      rw [Tree.size, Nat.add_assoc, ← List.range'_append_1, Nat.add_comm 1, List.range'_succ]
    rw [tallies, split, List.map_append, List.map_cons, ihLeft (some connective) _ _ start,
      ihRight (some connective) _ _ (start + left.size + 1)]
    have outsideLeft {index : Nat} (behind : start + left.size ≤ index) :
        ¬ Within start left.size index := fun inside => by
      have := inside.2
      omega
    have outsideRight {index : Nat} (before : index ≤ start + left.size) :
        ¬ Within (start + left.size + 1) right.size index := fun inside => by
      have := inside.1
      omega
    congr 1
    · refine List.map_congr_left fun index member => ?_
      have := List.mem_range'_1.mp member
      rw [tally_branch, tally_outside (outsideRight (by omega)), add_zero]
    · rw [tally_branch, tally_outside (outsideLeft (Nat.le_refl _)),
        tally_outside (outsideRight (Nat.le_refl _)), add_zero]
      refine congrArg (_ :: ·) ?_
      refine List.map_congr_left fun index member => ?_
      have := List.mem_range'_1.mp member
      rw [tally_branch, tally_outside (outsideLeft (by omega)), zero_add]

/-- What counters of 16 bits hold of two numbers. -/
def wrapped (tally : Nat × Nat) : Nat × Nat :=
  (tally.1 % 65536, tally.2 % 65536)

/-- The counters wrap around where the numbers go on. -/
theorem counters_emit (tree : Tree Condition) (outer : Option Connective) (parent : Option Nat)
    {opening closing : Nat} {opened closed : UInt16} (position : Nat)
    (countedOpening : opened.toNat = opening % 65536)
    (countedClosing : closed.toNat = closing % 65536) :
    (tree.emit outer parent opened closed position).map Node.counters =
      (tree.tallies outer opening closing).map wrapped := by
  induction tree generalizing outer parent opening closing opened closed position with
  | leaf condition => simp [emit, tallies, Node.counters, wrapped, countedOpening, countedClosing]
  | branch connective left right ihLeft ihRight =>
    simp only [emit, group_eq, tallies, List.map_append, List.map_cons]
    rw [ihLeft _ _ _ (toNat_add_group_mod countedOpening _) rfl,
      ihRight _ _ _ rfl (toNat_add_group_mod countedClosing _)]
    rfl

end Tree

end TypedSql.Predicate
