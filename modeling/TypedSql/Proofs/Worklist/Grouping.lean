import TypedSql.Proofs.Worklist.Filling

namespace TypedSql.Worklist

open Predicate (Tree)

/-- How far the first or the last leaf of a tree stands behind its root. -/
def edgeOf {α : Type} (side : Side) : Predicate.Tree α → Nat
  | .leaf _ => 0
  | .branch _ left right =>
    match side with
    | .left => 1 + edgeOf side left
    | .right => 1 + left.size + edgeOf side right

theorem Holds.edge {arena : Arena} {index steps : Nat} {tree : Predicate.Tree Condition}
    (holds : Holds arena index tree) (side : Side) (enough : tree.size ≤ steps) :
    arena.edge side steps index = some (index + edgeOf side tree) := by
  induction holds generalizing steps with
  | leaf found childless =>
    obtain ⟨steps, rfl⟩ := Nat.exists_eq_add_of_le' enough
    simp [Tree.size, Arena.edge, found, childless, edgeOf]
  | @branch _ _ _ left right found leftChild rightChild _ _ ihLeft ihRight =>
    rw [Tree.size] at enough
    obtain ⟨steps, rfl⟩ : ∃ rest, steps = rest + 1 := ⟨steps - 1, by omega⟩
    cases side with
    | left =>
      have enoughLeft : left.size ≤ steps := by omega
      simp only [Arena.edge, found, Option.bind_eq_bind, Option.bind_some, leftChild,
        ihLeft enoughLeft, edgeOf]
      rw [Nat.add_assoc]
    | right =>
      have enoughRight : right.size ≤ steps := by omega
      simp only [Arena.edge, found, Option.bind_eq_bind, Option.bind_some, rightChild,
        ihRight enoughRight, edgeOf]
      rw [← Nat.add_assoc, ← Nat.add_assoc]

section

variable {grouping : Grouping} {outer : Option Connective} {parent : Option Nat}
  {opening closing : UInt16} {index : Nat} {before after : Arena}

theorem open_slots (tree : Predicate.Tree Condition) (here : index = before.length) :
    modifyAt (before ++ (slots grouping outer parent opening closing index tree ++ after))
        (index + edgeOf .left tree) Slot.opened =
      some (before ++ (slots grouping outer parent (opening + 1) closing index tree ++ after)) := by
  induction tree generalizing outer parent opening closing index before after with
  | leaf condition => exact modifyAt_append_cons _ here
  | branch connective left right ihLeft ihRight =>
    have swap : opening + grouping outer connective + 1 = opening + 1 + grouping outer connective :=
      by ac_rfl
    rw [append_left, edgeOf, ← Nat.add_assoc, ihLeft (left_start here), append_left, swap]

theorem close_slots (tree : Predicate.Tree Condition) (here : index = before.length) :
    modifyAt (before ++ (slots grouping outer parent opening closing index tree ++ after))
        (index + edgeOf .right tree) Slot.closed =
      some (before ++ (slots grouping outer parent opening (closing + 1) index tree ++ after)) := by
  induction tree generalizing outer parent opening closing index before after with
  | leaf condition => exact modifyAt_append_cons _ here
  | branch connective left right ihLeft ihRight =>
    have swap : closing + grouping outer connective + 1 = closing + 1 + grouping outer connective :=
      by ac_rfl
    rw [append_right, edgeOf, ← Nat.add_assoc, ← Nat.add_assoc,
      ihRight (right_start here (length_slots left)), append_right, swap]

end

def grouped : Grouping :=
  fun outer connective => if outer.isNone || outer == some connective then 0 else 1

/-- A place in an arena: at its root, or under a slot with a connective. -/
inductive Under (arena : Arena) : Option Nat → Option Connective → Prop where
  | root : Under arena none none
  | slot {parent : Nat} {slot : Slot} {connective : Connective}
      (found : arena[parent]? = some slot) (written : slot.connective? = some connective) :
      Under arena (some parent) (some connective)

theorem Under.append {arena : Arena} {parent : Option Nat} {outer : Option Connective}
    (under : Under arena parent outer) (after : Arena) : Under (arena ++ after) parent outer := by
  cases under with
  | root => exact .root
  | slot found written =>
    have inside := (List.getElem?_eq_some_iff.mp found).1
    exact .slot ((List.getElem?_append_left inside).trans found) written

section

variable {arena : Arena} {index : Nat} {slot : Slot} {outer : Option Connective}

theorem group_condition (found : arena[index]? = some slot)
    (under : Under arena slot.parent outer) (plain : slot.connective? = none) :
    arena.group index = some arena := by
  obtain ⟨node, parent, children⟩ := slot
  cases under with
  | root => simp [Arena.group, found]
  | slot outside _ => simp [Arena.group, found, outside, plain]

theorem group_connective (found : arena[index]? = some slot)
    (under : Under arena slot.parent outer) {connective : Connective}
    (written : slot.connective? = some connective) {first last : Nat}
    (leftmost : arena.edge .left arena.length index = some first)
    (rightmost : arena.edge .right arena.length index = some last) :
    arena.group index =
      if outer.isNone || outer == some connective then some arena
      else modifyAt arena first Slot.opened >>= fun arena => modifyAt arena last Slot.closed := by
  obtain ⟨node, parent, children⟩ := slot
  cases under with
  | root => simp [Arena.group, found]
  | @slot parent outside own above known =>
    simp [Arena.group, found, above, written, known, leftmost, rightmost, @eq_comm _ connective own]

end

section

variable {outer : Option Connective} {parent : Option Nat} {opening closing : UInt16}
  {index : Nat} {before after : Arena}

theorem group_branch (connective : Connective) (left right : Predicate.Tree Condition)
    (under : Under before parent outer) (here : index = before.length) :
    Arena.group
        (before ++ (slots ungrouped outer parent opening closing index
          (.branch connective left right) ++ after)) index =
      some (before ++ (slots ungrouped outer parent (opening + grouped outer connective)
        (closing + grouped outer connective) index (.branch connective left right) ++ after)) := by
  have holds : Holds (before ++ (slots ungrouped outer parent opening closing index
      (.branch connective left right) ++ after)) index _ := holds_slots _ here
  have root : (before ++ (slots ungrouped outer parent opening closing index
      (.branch connective left right) ++ after))[index]? = some _ := getElem?_append_cons here
  have enough := Nat.le_of_add_left_le holds.size_le
  rw [group_connective root (under.append _) rfl (holds.edge .left enough)
    (holds.edge .right enough), grouped]
  split
  · simp only [UInt16.add_zero]
  · simp only [open_slots _ here, close_slots _ here, Option.bind_eq_bind, Option.bind_some]

/-- The pass over the indices of a tree puts its connectives in parentheses, and nothing else. -/
theorem group_slots (tree : Predicate.Tree Condition) (under : Under before parent outer)
    (here : index = before.length) :
    (List.range' index tree.size).foldlM Arena.group
        (before ++ (slots ungrouped outer parent opening closing index tree ++ after)) =
      some (before ++ (slots grouped outer parent opening closing index tree ++ after)) := by
  induction tree generalizing outer parent opening closing index before after with
  | leaf condition =>
    have alone : Arena.group (before ++ (slots ungrouped outer parent opening closing index
        (.leaf condition) ++ after)) index = _ :=
      group_condition (getElem?_append_cons here) (under.append _) rfl
    simp only [Tree.size, List.range'_one, List.foldlM_cons, alone]
    rfl
  | branch connective left right ihLeft ihRight =>
    have parts : List.range' index (Tree.branch connective left right).size =
        index :: (List.range' (index + 1) left.size ++
          List.range' (index + 1 + left.size) right.size) := by
      rw [List.range'_append_1, ← List.range'_succ, Tree.size, Nat.add_right_comm]
    rw [parts, List.foldlM_cons, group_branch connective left right under here]
    simp only [Option.bind_eq_bind, Option.bind_some, List.foldlM_append]
    -- The sides stand under the root, which the groups below it leave as it is.
    have root (rest : Arena) : Under (before ++ .branch connective parent (index + 1)
        (index + 1 + left.size) :: rest) (some index) (some connective) :=
      .slot (getElem?_append_cons here) rfl
    rw [append_left, ihLeft (root []) (left_start here), Option.bind_some, List.append_assoc,
      List.singleton_append, ← List.cons_append, ← List.append_assoc,
      ihRight (root _) (right_start here (length_slots left)), append_right]
    simp only [ungrouped, UInt16.add_zero]

end

end TypedSql.Worklist
