import Mathlib.Data.List.Forall2
import TypedSql.Predicate.Node

namespace TypedSql.Predicate.Tree

variable {α β : Type}

/-- The value of a tree whose connectives combine the values of its leaves. -/
def fold (combine : Connective → β → β → β) (value : α → β) : Tree α → β
  | leaf a => value a
  | branch connective left right =>
    combine connective (left.fold combine value) (right.fold combine value)

def leaves : Tree α → List α
  | leaf a => [a]
  | branch _ left right => left.leaves ++ right.leaves

/-- Trees of one shape whose leaves are related one by one. -/
inductive Related (R : α → β → Prop) : Tree α → Tree β → Prop where
  | leaf {a : α} {b : β} (related : R a b) : Related R (.leaf a) (.leaf b)
  | branch {connective : Connective} {left right : Tree α} {left' right' : Tree β}
      (first : Related R left left') (second : Related R right right') :
      Related R (.branch connective left right) (.branch connective left' right')

theorem Related.mono {R S : α → β → Prop} (weaker : ∀ a b, R a b → S a b) {tree : Tree α}
    {other : Tree β} (related : Related R tree other) : Related S tree other := by
  induction related with
  | leaf related => exact .leaf (weaker _ _ related)
  | branch _ _ first second => exact .branch first second

theorem Related.leaves {R : α → β → Prop} {tree : Tree α} {other : Tree β}
    (related : Related R tree other) : List.Forall₂ R tree.leaves other.leaves := by
  induction related with
  | leaf related => exact .cons related .nil
  | branch _ _ first second => exact List.rel_append first second

theorem Related.exists_left {R : α → β → Prop} {tree : Tree α} {other : Tree β}
    (related : Related R tree other) {b : β} (member : b ∈ other.leaves) :
    ∃ a ∈ tree.leaves, R a b := by
  induction related with
  | @leaf a other related =>
    rw [List.mem_singleton.mp member]
    exact ⟨a, by simp [Tree.leaves], related⟩
  | branch _ _ first second =>
    simp only [Tree.leaves, List.mem_append] at member ⊢
    rcases member with member | member
    · obtain ⟨a, found, related⟩ := first member
      exact ⟨a, .inl found, related⟩
    · obtain ⟨a, found, related⟩ := second member
      exact ⟨a, .inr found, related⟩

theorem Related.flip {R : α → β → Prop} {tree : Tree α} {other : Tree β}
    (related : Related R tree other) : Related (fun b a => R a b) other tree := by
  induction related with
  | leaf related => exact .leaf related
  | branch _ _ first second => exact .branch first second

theorem Related.exists_of_leaves {R : α → β → Prop} {tree : Tree α}
    (each : ∀ a ∈ tree.leaves, ∃ b, R a b) : ∃ other, Related R tree other := by
  induction tree with
  | leaf a =>
    obtain ⟨b, related⟩ := each a (by simp [Tree.leaves])
    exact ⟨.leaf b, .leaf related⟩
  | branch connective left right ihLeft ihRight =>
    obtain ⟨left', first⟩ := ihLeft fun a member => each a (by simp [Tree.leaves, member])
    obtain ⟨right', second⟩ := ihRight fun a member => each a (by simp [Tree.leaves, member])
    exact ⟨.branch connective left' right', .branch first second⟩

mutual

/-- The tree with chains of one connective nested to the left, as they are read. -/
def leftNested : Tree α → Tree α
  | leaf a => leaf a
  | branch connective left right => right.chained connective left.leftNested

/-- A tree as the right operand of a connective behind what was read before. -/
def chained : Tree α → Connective → Tree α → Tree α
  | leaf a, outer, before => branch outer before (leaf a)
  | branch connective left right, outer, before =>
    if connective = outer then right.chained outer (left.chained outer before)
    else branch outer before (right.chained connective left.leftNested)

end

section

variable (combine : Connective → β → β → β) (value : α → β)
  (associative : ∀ connective a b c, combine connective (combine connective a b) c =
    combine connective a (combine connective b c))

include associative

theorem fold_nested (tree : Tree α) :
    tree.leftNested.fold combine value = tree.fold combine value ∧
      ∀ outer before, (tree.chained outer before).fold combine value =
        combine outer (before.fold combine value) (tree.fold combine value) := by
  induction tree with
  | leaf a => exact ⟨by simp [leftNested], fun outer before => by simp [chained, fold]⟩
  | branch connective left right ihLeft ihRight =>
    constructor
    · simp only [leftNested, fold, ihRight.2, ihLeft.1]
    · intro outer before
      by_cases same : connective = outer
      · subst same
        simp only [chained, if_true, ihRight.2, ihLeft.2, fold, associative]
      · simp only [chained, same, if_false, fold, ihRight.2, ihLeft.1]

theorem fold_leftNested (tree : Tree α) :
    tree.leftNested.fold combine value = tree.fold combine value :=
  (fold_nested combine value associative tree).1

end

theorem leaves_eq_fold (tree : Tree α) :
    tree.leaves = tree.fold (fun _ => List.append) (fun a => [a]) := by
  induction tree with
  | leaf a => rfl
  | branch connective left right ihLeft ihRight => simp [leaves, fold, ihLeft, ihRight]

theorem leaves_leftNested (tree : Tree α) : tree.leftNested.leaves = tree.leaves := by
  rw [leaves_eq_fold, leaves_eq_fold]
  exact fold_leftNested _ _ (fun _ a b c => List.append_assoc a b c) tree

theorem Related.nested {R : α → β → Prop} {tree : Tree α} {other : Tree β}
    (related : Related R tree other) :
    Related R tree.leftNested other.leftNested ∧
      ∀ outer before before', Related R before before' →
        Related R (tree.chained outer before) (other.chained outer before') := by
  induction related with
  | leaf related =>
    refine ⟨by simpa only [leftNested] using .leaf related, fun outer before before' first => ?_⟩
    simpa only [chained] using .branch first (.leaf related)
  | @branch connective left right left' right' _ _ ihLeft ihRight =>
    constructor
    · simp only [leftNested]
      exact ihRight.2 _ _ _ ihLeft.1
    · intro outer before before' first
      simp only [chained]
      split
      · exact ihRight.2 _ _ _ (ihLeft.2 _ _ _ first)
      · exact .branch first (ihRight.2 _ _ _ ihLeft.1)

theorem Related.leftNested {R : α → β → Prop} {tree : Tree α} {other : Tree β}
    (related : Related R tree other) : Related R tree.leftNested other.leftNested :=
  related.nested.1

/-- Whether a tree stands in parentheses of its own under an outer connective. -/
def isGrouped (outer : Option Connective) (connective : Connective) : Bool :=
  !(outer.isNone || outer == some connective)

/-- The numbers of groups that open before and close after each leaf, beside those that are
there already. -/
def counts (outer : Option Connective) (opening closing : Nat) : Tree α → List (Nat × Nat)
  | leaf _ => [(opening, closing)]
  | branch connective left right =>
    let group := if isGrouped outer connective then 1 else 0
    left.counts (some connective) (opening + group) 0 ++
      right.counts (some connective) 0 (closing + group)

/-- No leaf opens or closes more than 65535 groups, so that the counters of the nodes hold the
true numbers. -/
def Fits (tree : Tree α) : Prop :=
  ∀ count ∈ tree.counts none 0 0, count.1 < 65536 ∧ count.2 < 65536

instance (tree : Tree α) : Decidable tree.Fits :=
  inferInstanceAs (Decidable (∀ count ∈ tree.counts none 0 0, count.1 < 65536 ∧ count.2 < 65536))

theorem Related.counts {R : α → β → Prop} {tree : Tree α} {other : Tree β}
    (related : Related R tree other) (outer : Option Connective) (opening closing : Nat) :
    tree.counts outer opening closing = other.counts outer opening closing := by
  induction related generalizing outer opening closing with
  | leaf related => rfl
  | branch _ _ first second => simp only [Tree.counts, first, second]

theorem Related.fits {R : α → β → Prop} {tree : Tree α} {other : Tree β}
    (related : Related R tree other) (fits : tree.Fits) : other.Fits := by
  unfold Fits
  rw [← related.counts]
  exact fits

end TypedSql.Predicate.Tree
