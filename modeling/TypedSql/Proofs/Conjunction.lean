import TypedSql.Proofs.Sql.Scanning
import TypedSql.Proofs.Truth

namespace TypedSql

namespace Truth

/-- The conjunction of truth values. That of none holds. -/
def all (truths : List Truth) : Truth :=
  truths.foldr Connective.and.truth holds

theorem and_holds (truth : Truth) : Connective.and.truth truth holds = truth := by
  cases truth <;> rfl

theorem foldl_and (first : Truth) (rest : List Truth) :
    rest.foldl Connective.and.truth first = all (first :: rest) := by
  induction rest generalizing first with
  | nil => exact (and_holds first).symm
  | cons second rest ih =>
    rw [List.foldl_cons, ih, all, all, List.foldr_cons, List.foldr_cons, List.foldr_cons,
      Connective.truth_assoc]

end Truth

namespace Predicate.Tree

variable {α β : Type}

/-- Trees one after another under `AND`, which nests to the left. -/
def conjoin (first : Tree α) (rest : List (Tree α)) : Tree α :=
  rest.foldl (branch .and) first

def conjunction? : List (Tree α) → Option (Tree α)
  | [] => none
  | first :: rest => some (first.conjoin rest)

theorem Related.conjoin {R : α → β → Prop} {first : Tree α} {rest : List (Tree α)}
    {first' : Tree β} {rest' : List (Tree β)} (head : Related R first first')
    (tail : List.Forall₂ (Related R) rest rest') :
    Related R (first.conjoin rest) (first'.conjoin rest') := by
  induction tail generalizing first first' with
  | nil => exact head
  | cons second _ ih => exact ih (.branch head second)

/-- The truth value of a conjunction of trees is the conjunction of their truth values. -/
theorem fold_conjoin {value : α → Option Truth} {first : Tree α} {rest : List (Tree α)}
    {truth : Truth} {truths : List Truth}
    (head : first.fold Connective.truth? value = some truth)
    (tail : List.Forall₂ (fun tree truth => tree.fold Connective.truth? value = some truth) rest
      truths) :
    (first.conjoin rest).fold Connective.truth? value = some (Truth.all (truth :: truths)) := by
  rw [← Truth.foldl_and]
  induction tail generalizing first truth with
  | nil => exact head
  | cons second _ ih =>
    refine ih ?_
    rw [fold, head, second]
    rfl

theorem fold_conjunction? {value : α → Option Truth} {trees : List (Tree α)} {tree : Tree α}
    {truths : List Truth} (whole : conjunction? trees = some tree)
    (each : List.Forall₂ (fun tree truth => tree.fold Connective.truth? value = some truth) trees
      truths) :
    tree.fold Connective.truth? value = some (Truth.all truths) := by
  cases each with
  | nil => cases whole
  | cons head tail =>
    cases whole
    exact fold_conjoin head tail

end Predicate.Tree

namespace Sql

open Predicate (Grammar Tree)

theorem join_merge (separator : Token) (first second : Sql) (rest : List Sql) :
    join separator (first :: second :: rest) =
      join separator ((first ++ .token separator :: second) :: rest) := by
  cases rest with
  | nil => simp [join]
  | cons third rest => simp [join_cons_cons]

/-- Primaries one after another with `AND` between them are a chain. -/
theorem derives_join {first : Sql} {tree : Predicate.Tree Sql} {rest : List Sql}
    {trees : List (Predicate.Tree Sql)} (head : grammar.Derives (.chain .and) first tree)
    (tail : List.Forall₂ (grammar.Derives .primary) rest trees) :
    grammar.Derives (.chain .and) (join (.keyword .AND) (first :: rest)) (tree.conjoin trees) := by
  induction tail generalizing first tree with
  | nil => simpa [join, Tree.conjoin] using head
  | cons second _ ih =>
    rw [join_merge]
    exact ih (.more head second)

end Sql

end TypedSql
