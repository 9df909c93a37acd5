import TypedSql.Proofs.Worklist.Grouping

namespace TypedSql.Worklist

open Predicate (Tree Node)

/-- The indices of a tree from left to right, if its slots begin at an index. -/
def indices {α : Type} (index : Nat) : Predicate.Tree α → List Nat
  | .leaf _ => [index]
  | .branch _ left right =>
    indices (index + 1) left ++ index :: indices (index + 1 + left.size) right

/-- The positions of the slots of a tree, in the order of the slots. -/
def ranks {α : Type} (start : Nat) : Predicate.Tree α → List Nat
  | .leaf _ => [start]
  | .branch _ left right =>
    (start + left.size) :: (ranks start left ++ ranks (start + left.size + 1) right)

theorem length_indices {α : Type} (index : Nat) (tree : Predicate.Tree α) :
    (indices index tree).length = tree.size := by
  induction tree generalizing index with
  | leaf _ => rfl
  | branch _ left right ihLeft ihRight =>
    simp only [indices, List.length_append, List.length_cons, ihLeft, ihRight, Tree.size]
    omega

/-- The walk goes through a tree from left to right, and goes on with the stack. -/
theorem Holds.walk {arena : Arena} {index : Nat} {tree : Predicate.Tree Condition}
    (holds : Holds arena index tree) (steps : Nat) (stack order : List Nat) :
    arena.walk (2 * tree.size + steps) stack (some index) order =
      arena.walk steps stack none (order ++ indices index tree) := by
  induction holds generalizing steps stack order with
  | leaf found childless =>
    have spent : 2 * 1 + steps = steps + 1 + 1 := by omega
    rw [Tree.size, spent, Arena.walk, found, Option.bind_eq_bind, Option.bind_some, childless,
      Arena.walk, found, Option.bind_eq_bind, Option.bind_some, childless, indices]
  | @branch _ _ _ left right found leftChild rightChild _ _ ihLeft ihRight =>
    have spent : 2 * (left.size + 1 + right.size) + steps =
        2 * left.size + (2 * right.size + steps + 1) + 1 := by omega
    rw [Tree.size, spent, Arena.walk, found, Option.bind_eq_bind, Option.bind_some, leftChild,
      ihLeft, Arena.walk, found, Option.bind_eq_bind, Option.bind_some, rightChild, ihRight,
      indices]
    simp only [List.append_assoc, List.singleton_append]

theorem zipIdx_indices {α : Type} (connective : Connective) (left right : Predicate.Tree α)
    (index start : Nat) :
    (indices index (.branch connective left right)).zipIdx start =
      (indices (index + 1) left).zipIdx start ++ (index, start + left.size) ::
        (indices (index + 1 + left.size) right).zipIdx (start + left.size + 1) := by
  rw [indices, List.zipIdx_append, List.zipIdx_cons, length_indices]

theorem length_ranks {α : Type} (start : Nat) (tree : Predicate.Tree α) :
    (ranks start tree).length = tree.size := by
  induction tree generalizing start with
  | leaf _ => rfl
  | branch _ left right ihLeft ihRight =>
    simp only [ranks, List.length_cons, List.length_append, ihLeft, ihRight, Tree.size]
    omega

theorem number_indices {α : Type} (tree : Predicate.Tree α) (start : Nat) {index : Nat}
    {before after : List Nat} (here : index = before.length) :
    ((indices index tree).zipIdx start).foldlM Arena.number
        (before ++ (List.replicate tree.size 0 ++ after)) =
      some (before ++ (ranks start tree ++ after)) := by
  induction tree generalizing start index before after with
  | leaf _ =>
    have numbered : Arena.number (before ++ 0 :: after) (index, start) =
        some (before ++ start :: after) := modifyAt_append_cons _ here
    simp [indices, Tree.size, ranks, numbered]
  | branch connective left right ihLeft ihRight =>
    have parts : List.replicate (Tree.branch connective left right).size 0 =
        0 :: (List.replicate left.size 0 ++ List.replicate right.size 0) := by
      rw [List.replicate_append_replicate, ← List.replicate_succ, Tree.size, Nat.add_right_comm]
    have numbered (rest : List Nat) : Arena.number (before ++ 0 :: rest)
        (index, start + left.size) = some (before ++ (start + left.size) :: rest) :=
      modifyAt_append_cons _ here
    have first (rest : List Nat) : ((indices (index + 1) left).zipIdx start).foldlM Arena.number
        (before ++ 0 :: (List.replicate left.size 0 ++ rest)) =
          some (before ++ 0 :: (ranks start left ++ rest)) := by
      rw [List.append_cons, ihLeft start (left_start here), ← List.append_cons]
    have second (rest : List Nat) : ((indices (index + 1 + left.size) right).zipIdx
        (start + left.size + 1)).foldlM Arena.number
        (before ++ (start + left.size) :: (ranks start left ++
          (List.replicate right.size 0 ++ rest))) =
          some (before ++ (start + left.size) :: (ranks start left ++
            (ranks (start + left.size + 1) right ++ rest))) := by
      rw [← List.cons_append, ← List.append_assoc,
        ihRight _ (right_start here (length_ranks start left)), List.append_assoc]
      rfl
    simp only [parts, zipIdx_indices, List.foldlM_append, List.foldlM_cons, List.cons_append,
      List.append_assoc, first, numbered, second, Option.bind_eq_bind, Option.bind_some, ranks]

section

variable {positions : List Nat} {nodes : List Node} {place : Option Nat} {index : Nat}

theorem take_append_cons {before after : Arena} {slot : Slot} {node : Node} {position : Nat}
    (here : index = before.length) (held : slot.node = some node)
    (known : slot.parent.mapM (fun parent => positions[parent]?) = some place) :
    Arena.take positions (before ++ slot :: after, nodes) (index, position) =
      some (before ++ slot.emptied :: after,
        nodes ++ [{ node with parent := place, position := position }]) := by
  simp only [Arena.take, getElem?_append_cons here, modifyAt_append_cons _ here, known, held,
    Option.bind_eq_bind, Option.bind_some]
  rfl

/-- The nodes of a tree are taken from left to right, with the positions of their parents. -/
theorem take_slots (tree : Predicate.Tree Condition) {outer : Option Connective}
    {parent : Option Nat} {opening closing : UInt16} {start : Nat} {before after : Arena}
    {numbers others : List Nat}
    (here : index = before.length) (there : index = numbers.length)
    (numbered : positions = numbers ++ (ranks start tree ++ others))
    (known : parent.mapM (fun parent => positions[parent]?) = some place) :
    ((indices index tree).zipIdx start).foldlM (Arena.take positions)
        (before ++ (slots grouped outer parent opening closing index tree ++ after), nodes) =
      some (before ++ ((slots grouped outer parent opening closing index tree).map Slot.emptied ++
        after), nodes ++ tree.emit outer place opening closing start) := by
  induction tree generalizing outer parent opening closing index start before after numbers others
    nodes place with
  | leaf condition =>
    have taken : Arena.take positions (before ++ (slots grouped outer parent opening closing index
        (.leaf condition) ++ after), nodes) (index, start) = _ := take_append_cons here rfl known
    simp only [indices, List.zipIdx_singleton, List.foldlM_cons, taken]
    rfl
  | branch connective left right ihLeft ihRight =>
    -- Every position is known before a node is taken, so that the left side finds its parent too.
    have ranked : positions[index]? = some (start + left.size) := by
      rw [numbered, ranks]
      exact getElem?_append_cons there
    have under : (some index).mapM (fun parent => positions[parent]?) =
        some (some (start + left.size)) := by
      simp [ranked]
    have numberedLeft : positions = (numbers ++ [start + left.size]) ++
        (ranks start left ++ (ranks (start + left.size + 1) right ++ others)) := by
      rw [numbered, ranks]
      simp
    have numberedRight : positions = (numbers ++ (start + left.size) :: ranks start left) ++
        (ranks (start + left.size + 1) right ++ others) := by
      rw [numbered, ranks]
      simp
    have taken (rest : Arena) (nodes : List Node) : Arena.take positions
        (before ++ .branch connective parent (index + 1) (index + 1 + left.size) :: rest, nodes)
        (index, start + left.size) = _ := take_append_cons here rfl known
    rw [zipIdx_indices, List.foldlM_append, append_left,
      ihLeft (left_start here) (left_start there) numberedLeft under]
    simp only [Option.bind_eq_bind, Option.bind_some, List.foldlM_cons, List.append_assoc,
      List.singleton_append, taken]
    rw [← List.cons_append, ← List.append_assoc, ihRight (right_start here (by simp))
      (right_start there (length_ranks start left)) numberedRight under]
    simp [slots, Tree.emit, grouped]

end

theorem linearize_slots (tree : Predicate.Tree Condition) :
    Arena.linearize (slots ungrouped none none 0 0 0 tree) = some ⟨tree.nodes⟩ := by
  have filled : (slots ungrouped none none 0 0 0 tree).isEmpty = false := by
    cases tree <;> rfl
  have grouping := @group_slots none none 0 0 0 [] [] tree .root rfl
  have holds := @holds_slots grouped none none 0 0 0 [] [] tree rfl
  have numbered := @number_indices _ tree 0 0 [] [] rfl
  have written := @take_slots (ranks 0 tree) [] none 0 tree none none 0 0 0 [] [] [] [] rfl rfl
    (List.append_nil _).symm rfl
  simp only [List.nil_append, List.append_nil] at grouping holds numbered written
  have walked : Arena.walk (slots grouped none none 0 0 0 tree) (2 * tree.size + 1) [] (some 0) [] =
      some (indices 0 tree) := by
    rw [holds.walk, List.nil_append, Arena.walk]
  simp [Arena.linearize, filled, List.range_eq_range', grouping, walked, numbered, written,
    Tree.nodes]

end TypedSql.Worklist
