import TypedSql.Proofs.Grammar

namespace TypedSql.Predicate

variable {τ α : Type}

inductive Piece (α : Type) where
  | opening
  | closing
  | connective (connective : Connective)
  | leaf (a : α)

namespace Piece

def marks : Marks (Piece α) :=
  ⟨opening, closing, connective⟩

def grammar : Grammar (Piece α) α :=
  ⟨marks, fun pieces a => pieces = [leaf a]⟩

end Piece

/-- What is known of a group in front of the operand that is read next: the left operands that
wait for the right operand of an `OR` and of an `AND`. -/
structure Pending (α : Type) where
  alternative : Option (Tree α)
  conjunct : Option (Tree α)

namespace Pending

def none : Pending α :=
  ⟨Option.none, Option.none⟩

def conjoin (pending : Pending α) (operand : Tree α) : Tree α :=
  match pending.conjunct with
  | some left => .branch .and left operand
  | Option.none => operand

def close (pending : Pending α) (operand : Tree α) : Tree α :=
  match pending.alternative with
  | some left => .branch .or left (pending.conjoin operand)
  | Option.none => pending.conjoin operand

end Pending

/-- Where a reading from left to right has got to: in which groups, and whether it has an operand
or waits for one. -/
structure Reader (α : Type) where
  enclosing : List (Pending α)
  pending : Pending α
  operand : Option (Tree α)

namespace Reader

def start : Reader α :=
  ⟨[], .none, none⟩

/-- `OR` ends what `AND` holds together. -/
def step (reader : Reader α) (piece : Piece α) : Option (Reader α) :=
  match piece, reader with
  | .leaf a, ⟨enclosing, pending, none⟩ => some ⟨enclosing, pending, some (.leaf a)⟩
  | .opening, ⟨enclosing, pending, none⟩ => some ⟨pending :: enclosing, .none, none⟩
  | .closing, ⟨outer :: enclosing, pending, some operand⟩ =>
    some ⟨enclosing, outer, some (pending.close operand)⟩
  | .connective .and, ⟨enclosing, pending, some operand⟩ =>
    some ⟨enclosing, ⟨pending.alternative, some (pending.conjoin operand)⟩, none⟩
  | .connective .or, ⟨enclosing, pending, some operand⟩ =>
    some ⟨enclosing, ⟨some (pending.close operand), none⟩, none⟩
  | _, _ => none

def finish (reader : Reader α) : Option (Tree α) :=
  match reader with
  | ⟨[], pending, some operand⟩ => some (pending.close operand)
  | _ => none

/-- What a phrase of a level adds to a reading that waits for one. -/
def Accepts (pieces : List (Piece α)) (tree : Tree α) : Level → Prop
  | .primary => ∀ enclosing pending,
    pieces.foldlM step ⟨enclosing, pending, none⟩ = some ⟨enclosing, pending, some tree⟩
  | .chain .and => ∀ enclosing alternative, ∃ conjunct operand,
    pieces.foldlM step ⟨enclosing, ⟨alternative, none⟩, none⟩ =
      some ⟨enclosing, ⟨alternative, conjunct⟩, some operand⟩ ∧
    Pending.conjoin ⟨alternative, conjunct⟩ operand = tree
  | .chain .or => ∀ enclosing, ∃ pending operand,
    pieces.foldlM step ⟨enclosing, .none, none⟩ = some ⟨enclosing, pending, some operand⟩ ∧
    pending.close operand = tree

theorem run_append {before after : List (Piece α)} {reader middle : Reader α}
    (first : before.foldlM step reader = some middle) :
    (before ++ after).foldlM step reader = after.foldlM step middle := by
  simp [List.foldlM_append, first]

theorem accepts_of_derives {level : Level} {pieces : List (Piece α)} {tree : Tree α}
    (derived : Piece.grammar.Derives level pieces tree) : Accepts pieces tree level := by
  induction derived with
  | leaf phrase =>
    intro enclosing pending
    rw [show _ = [_] from phrase]
    rfl
  | @group pieces tree _ inner =>
    intro enclosing pending
    obtain ⟨closed, operand, run, whole⟩ := inner (pending :: enclosing)
    have opened : (Piece.grammar.opening :: pieces).foldlM step ⟨enclosing, pending, none⟩ =
        some ⟨pending :: enclosing, closed, some operand⟩ := run
    rw [run_append opened]
    exact congrArg (fun tree => some (⟨enclosing, pending, some tree⟩ : Reader α)) whole
  | @single connective pieces tree _ only =>
    cases connective with
    | and =>
      intro enclosing alternative
      exact ⟨none, tree, only enclosing ⟨alternative, none⟩, rfl⟩
    | or =>
      intro enclosing
      obtain ⟨conjunct, operand, run, whole⟩ := only enclosing none
      exact ⟨⟨none, conjunct⟩, operand, run, whole⟩
  | @more connective before after left right _ _ first last =>
    cases connective with
    | and =>
      intro enclosing alternative
      obtain ⟨conjunct, operand, run, whole⟩ := first enclosing alternative
      refine ⟨some left, right, ?_, rfl⟩
      rw [run_append run, ← whole]
      exact last enclosing ⟨alternative, some (Pending.conjoin ⟨alternative, conjunct⟩ operand)⟩
    | or =>
      intro enclosing
      obtain ⟨pending, operand, run, whole⟩ := first enclosing
      obtain ⟨conjunct, other, runAfter, wholeAfter⟩ := last enclosing (some left)
      refine ⟨⟨some left, conjunct⟩, other, ?_, ?_⟩
      · rw [run_append run, ← runAfter, ← whole]
        rfl
      · simp only [Pending.close]
        rw [wholeAfter]

end Reader

/-- The tree that a list of nodes is read as, `AND` before `OR`. -/
def Piece.read? (pieces : List (Piece α)) : Option (Tree α) :=
  (pieces.foldlM Reader.step .start).bind Reader.finish

theorem Piece.read?_of_derives {pieces : List (Piece α)} {tree : Tree α}
    (derived : grammar.Derives .whole pieces tree) : read? pieces = some tree := by
  obtain ⟨pending, operand, run, whole⟩ := Reader.accepts_of_derives derived []
  unfold read?
  rw [show Reader.start = (⟨[], .none, none⟩ : Reader α) from rfl, run]
  exact congrArg some whole

def Node.tokens (marks : Marks τ) (spell : Condition → List τ) (node : Node) : List τ :=
  List.replicate node.opening.toNat marks.opening ++
    (match node.content with
      | .condition condition => spell condition
      | .connective connective => [marks.connective connective]) ++
    List.replicate node.closing.toNat marks.closing

theorem Tree.counts_bound {tree : Tree α} {outer : Option Connective} {opening closing : Nat}
    {bound : Nat} (bounded : ∀ count ∈ tree.counts outer opening closing,
      count.1 < bound ∧ count.2 < bound) : opening < bound ∧ closing < bound := by
  induction tree generalizing outer opening closing with
  | leaf a => exact bounded (opening, closing) (by simp [counts])
  | branch connective left right ihLeft ihRight =>
    simp only [counts, List.mem_append] at bounded
    have first := ihLeft fun count member => bounded count (.inl member)
    have last := ihRight fun count member => bounded count (.inr member)
    omega

theorem toNat_add_group_mod {count : UInt16} {number : Nat} (counted : count.toNat = number % 65536)
    (grouped : Bool) :
    (count + if grouped then 1 else 0).toNat = (number + if grouped then 1 else 0) % 65536 := by
  cases grouped <;> simp [counted]

theorem toNat_add_group {count : UInt16} {grouped : Bool}
    (bounded : count.toNat + (if grouped then 1 else 0) < 65536) :
    (count + if grouped then 1 else 0).toNat = count.toNat + if grouped then 1 else 0 :=
  (toNat_add_group_mod (Nat.mod_eq_of_lt count.toNat_lt).symm grouped).trans
    (Nat.mod_eq_of_lt bounded)

theorem Tree.group_eq (outer : Option Connective) (connective : Connective) :
    (if outer.isNone || outer == some connective then 0 else 1) =
      if isGrouped outer connective then (1 : UInt16) else 0 := by
  unfold isGrouped
  cases outer.isNone || outer == some connective <;> rfl

/-- As long as the counters hold the true numbers, the nodes of a tree say what is written of it.
The groups that open in front of the tree are counted on its first leaf. -/
theorem Tree.emit_tokens (marks : Marks τ) (spell : Condition → List τ) (tree : Tree Condition)
    {outer : Option Connective} {opening closing : UInt16} (parent : Option Nat) (position : Nat)
    (bounded : ∀ count ∈ tree.counts outer opening.toNat closing.toNat,
      count.1 < 65536 ∧ count.2 < 65536) :
    (tree.emit outer parent opening closing position).flatMap (Node.tokens marks spell) =
      List.replicate opening.toNat marks.opening ++ marks.write spell outer tree ++
        List.replicate closing.toNat marks.closing := by
  induction tree generalizing outer opening closing parent position with
  | leaf condition => simp [emit, Node.tokens, Marks.write]
  | branch connective left right ihLeft ihRight =>
    simp only [counts, List.mem_append] at bounded
    have boundedLeft := fun count member => bounded count (.inl member)
    have boundedRight := fun count member => bounded count (.inr member)
    have opened := toNat_add_group (counts_bound boundedLeft).1
    have closed := toNat_add_group (counts_bound boundedRight).2
    rw [← opened] at boundedLeft
    rw [← closed] at boundedRight
    simp only [emit, group_eq, List.flatMap_append, List.flatMap_cons]
    rw [ihLeft _ _ boundedLeft, ihRight _ _ boundedRight, opened, closed]
    cases grouped : isGrouped outer connective with
    | false => simp [Marks.write, grouped, Node.tokens]
    | true =>
      have inFront : List.replicate (opening.toNat + 1) marks.opening =
          List.replicate opening.toNat marks.opening ++ [marks.opening] := List.replicate_succ'
      simp [Marks.write, grouped, Node.tokens, inFront, List.replicate_succ (n := closing.toNat)]

theorem Tree.nodes_tokens (marks : Marks τ) (spell : Condition → List τ) {tree : Tree Condition}
    (fits : tree.Fits) :
    tree.nodes.flatMap (Node.tokens marks spell) = marks.write spell none tree := by
  have written := @tree.emit_tokens _ marks spell none 0 0 none 0 fits
  simpa [nodes] using written

def Node.condition? (node : Node) : Option Condition :=
  match node.content with
  | .condition condition => some condition
  | .connective _ => none

theorem Tree.emit_conditions (tree : Tree Condition) (outer : Option Connective)
    (parent : Option Nat) (opening closing : UInt16) (position : Nat) :
    (tree.emit outer parent opening closing position).filterMap Node.condition? = tree.leaves := by
  induction tree generalizing outer parent opening closing position with
  | leaf condition => rfl
  | branch connective left right ihLeft ihRight =>
    simp only [emit, leaves, List.filterMap_append, List.filterMap_cons, ihLeft, ihRight,
      Node.condition?]

end Predicate

namespace Predicate

open Predicate

def conditions (predicate : Predicate) : List Condition :=
  predicate.nodes.filterMap Node.condition?

theorem conditions_nodes (tree : Tree Condition) : conditions ⟨tree.nodes⟩ = tree.leaves :=
  tree.emit_conditions none none 0 0 0

def pieces (predicate : Predicate) : List (Piece Condition) :=
  predicate.nodes.flatMap (Node.tokens Piece.marks fun condition => [.leaf condition])

/-- The tree that the nodes are read as from left to right, with their parentheses and with `AND`
before `OR`. -/
def read? (predicate : Predicate) : Option (Tree Condition) :=
  Piece.read? predicate.pieces

theorem read?_nodes {tree : Tree Condition} (fits : tree.Fits) :
    read? ⟨tree.nodes⟩ = some tree.leftNested := by
  have same : pieces ⟨tree.nodes⟩ =
      Piece.marks.write (fun condition => [.leaf condition]) none tree :=
    Tree.nodes_tokens Piece.marks (fun condition => [.leaf condition]) fits
  have derived := Grammar.derives_write Piece.grammar (fun condition => [.leaf condition]) tree
    (fun _ _ => rfl)
  unfold read?
  rw [same]
  exact Piece.read?_of_derives derived

end Predicate

end TypedSql
