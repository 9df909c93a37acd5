import TypedSql.Proofs.Compilation.Clauses
import TypedSql.Proofs.Worklist.Ordering
import TypedSql.Proofs.Worklist.Segments

namespace TypedSql

open Predicate (Tree)

def Clause.compile (scope : Scope) (clause : Clause) : Compile Condition :=
  Compile.condition scope clause.expr clause.negated

namespace Compile

/-- The conditions of a tree are compiled from left to right. -/
theorem leaves_tree (scope : Scope) (expr : Expr) (negated : Bool) :
    Tree.leaves <$> tree scope expr negated =
      (expr.clauses negated).leaves.mapM (Clause.compile scope) := by
  fun_induction Expr.clauses expr negated with
  | case1 inner negated ih => exact ih
  | case2 connective left right negated ihLeft ihRight =>
    rw [Tree.leaves, List.mapM_append, ← ihLeft, ← ihRight]
    simp only [tree, map_bind, bind_map_left, map_pure]
    rfl
  | case3 expr negated noNegation noConnective =>
    rw [tree.eq_3 scope expr negated noNegation noConnective]
    simp [Tree.leaves, Clause.compile]

end Compile

/-- The compiler with a stack and an arena always comes to an end, with what the compiler by
recursion gives, whatever was recorded before. The counters of parentheses wrap alike. If it fails,
then at the leftmost clause that does, behind the parameters of the clauses before it. -/
theorem worklist_compiles (expr : Expr) (scope : Scope) :
    Worklist.compile expr scope =
        (fun segment => some ⟨segment.nodes⟩) <$> Compile.segment scope expr false ∧
      Worklist.compile expr scope = some <$> expr.compile scope ∧
      ∀ (before after : Parameters) (error : Error),
        Worklist.compile expr scope before = (.error error, after) ↔
          ∃ first clause rest conditions middle,
            (expr.clauses false).leaves = first ++ clause :: rest ∧
            first.mapM (Clause.compile scope) before = (.ok conditions, middle) ∧
            clause.compile scope middle = (.error error, after) := by
  have same : Worklist.compile expr scope =
      (fun tree => some ⟨tree.nodes⟩) <$> Compile.tree scope expr false := by
    rw [Worklist.compile, Worklist.flatten_eq]
    simp only [map_eq_pure_bind, bind_assoc, pure_bind, Function.comp_apply, Option.bind_some,
      Worklist.linearize_slots]
  refine ⟨?_, ?_, ?_⟩
  · rw [same, Compile.segment_eq]
    simp [Tree.segment_eq]
  · rw [same, Expr.compile]
    simp
  · intro before after error
    rw [same, Compile.map_error, ← Compile.mapM_error, ← Compile.leaves_tree, Compile.map_error]

end TypedSql
