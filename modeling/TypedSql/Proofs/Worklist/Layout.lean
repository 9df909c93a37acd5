import TypedSql.Proofs.Worklist.Machine

namespace TypedSql.Worklist

open Predicate (Tree)

section

variable {α : Type} {index : Nat} {before after : List α} {item : α}

theorem getElem?_append_cons (here : index = before.length) :
    (before ++ item :: after)[index]? = some item := by
  rw [here, List.getElem?_append_right (Nat.le_refl _), Nat.sub_self, List.getElem?_cons_zero]

theorem modifyAt_append_cons (change : α → α) (here : index = before.length) :
    modifyAt (before ++ item :: after) index change = some (before ++ change item :: after) := by
  subst here
  simp [modifyAt]

theorem length_modifyAt {change : α → α} {items modified : List α}
    (done : modifyAt items index change = some modified) : modified.length = items.length := by
  obtain ⟨item, _, last⟩ := Option.bind_eq_some_iff.mp done
  rw [← Option.some.inj last, List.length_set]

theorem left_start (here : index = before.length) : index + 1 = (before ++ [item]).length := by
  rw [List.length_append, List.length_singleton, here]

theorem right_start {left : List α} {size : Nat} (here : index = before.length)
    (filled : left.length = size) : index + 1 + size = (before ++ item :: left).length := by
  rw [List.length_append, List.length_cons, here, filled]
  omega

end

def Slot.branch (connective : Connective) (parent : Option Nat) (left right : Nat) : Slot :=
  ((Slot.fresh (.connective connective) parent).adopt .left left).adopt .right right

/-- How many groups a connective makes under an outer one. -/
abbrev Grouping := Option Connective → Connective → UInt16

/-- The slots of a tree from an index on: the root, then those of its left side, then those of its
right side. Some parentheses are opened and closed around the tree already. -/
def slots (grouping : Grouping) (outer : Option Connective) (parent : Option Nat)
    (opening closing : UInt16) (index : Nat) : Predicate.Tree Condition → Arena
  | .leaf condition =>
    [⟨some ⟨.condition condition, none, opening, closing, 0⟩, parent, fun _ => none⟩]
  | .branch connective left right =>
    let group := grouping outer connective
    .branch connective parent (index + 1) (index + 1 + left.size) ::
      (slots grouping (some connective) (some index) (opening + group) 0 (index + 1) left ++
        slots grouping (some connective) (some index) 0 (closing + group)
          (index + 1 + left.size) right)

/-- A tree stands in an arena, with its root at an index. -/
inductive Holds (arena : Arena) : Nat → Predicate.Tree Condition → Prop where
  | leaf {index : Nat} {slot : Slot} {condition : Condition} (found : arena[index]? = some slot)
      (childless : ∀ side, slot.children side = none) : Holds arena index (.leaf condition)
  | branch {index : Nat} {slot : Slot} {connective : Connective}
      {left right : Predicate.Tree Condition} (found : arena[index]? = some slot)
      (leftChild : slot.children .left = some (index + 1))
      (rightChild : slot.children .right = some (index + 1 + left.size))
      (first : Holds arena (index + 1) left) (second : Holds arena (index + 1 + left.size) right) :
      Holds arena index (.branch connective left right)

/-- An arena is at least as large as a tree in it, since the last leaf is in it. -/
theorem Holds.size_le {arena : Arena} {index : Nat} {tree : Predicate.Tree Condition}
    (holds : Holds arena index tree) : index + tree.size ≤ arena.length := by
  induction holds with
  | leaf found _ => exact (List.getElem?_eq_some_iff.mp found).1
  | branch _ _ _ _ _ _ ihRight =>
    rw [Tree.size]
    omega

section

variable {grouping : Grouping} {outer : Option Connective} {parent : Option Nat}
  {opening closing : UInt16} {index : Nat} {before after : Arena}

@[simp]
theorem length_slots (tree : Predicate.Tree Condition) :
    (slots grouping outer parent opening closing index tree).length = tree.size := by
  induction tree generalizing outer parent opening closing index with
  | leaf condition => rfl
  | branch connective left right ihLeft ihRight =>
    simp only [slots, List.length_cons, List.length_append, ihLeft, ihRight, Tree.size]
    omega

theorem append_left {connective : Connective} {left right : Predicate.Tree Condition} :
    before ++ (slots grouping outer parent opening closing index (.branch connective left right) ++
        after) =
      (before ++ [.branch connective parent (index + 1) (index + 1 + left.size)]) ++
        (slots grouping (some connective) (some index) (opening + grouping outer connective) 0
            (index + 1) left ++
          (slots grouping (some connective) (some index) 0 (closing + grouping outer connective)
              (index + 1 + left.size) right ++ after)) := by
  simp [slots]

theorem append_right {connective : Connective} {left right : Predicate.Tree Condition} :
    before ++ (slots grouping outer parent opening closing index (.branch connective left right) ++
        after) =
      (before ++ .branch connective parent (index + 1) (index + 1 + left.size) ::
          slots grouping (some connective) (some index) (opening + grouping outer connective) 0
            (index + 1) left) ++
        (slots grouping (some connective) (some index) 0 (closing + grouping outer connective)
            (index + 1 + left.size) right ++ after) := by
  simp [slots]

theorem holds_slots (tree : Predicate.Tree Condition) (here : index = before.length) :
    Holds (before ++ (slots grouping outer parent opening closing index tree ++ after)) index
      tree := by
  induction tree generalizing outer parent opening closing index before after with
  | leaf condition => exact .leaf (getElem?_append_cons here) fun _ => rfl
  | branch connective left right ihLeft ihRight =>
    refine .branch (getElem?_append_cons here) rfl rfl ?_ ?_
    · rw [append_left]
      exact ihLeft (left_start here)
    · rw [append_right]
      exact ihRight (right_start here (length_slots left))

end

end TypedSql.Worklist
