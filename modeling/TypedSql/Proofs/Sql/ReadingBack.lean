import TypedSql.Proofs.Compilation.Clauses
import TypedSql.Proofs.Except
import TypedSql.Proofs.Sql.Scanning

namespace TypedSql

open Predicate (Node Tree Marks)
open Sql (Leaf grammar)

variable (dialect : Dialect)

def Condition.spell (condition : Condition) : Sql :=
  match condition.sql dialect with
  | .ok part => part
  | .error _ => []

def Condition.Renders (condition : Condition) (part : Sql) : Prop :=
  condition.sql dialect = .ok part

theorem Condition.Renders.spell {condition : Condition} {part : Sql}
    (rendered : condition.Renders dialect part) : condition.spell dialect = part := by
  rw [Condition.spell, rendered]

namespace Predicate

theorem Node.sql_of_accepted {node : Node}
    (accepted : ∀ condition, node.condition? = some condition →
      condition.isRefused dialect = false) :
    node.sql dialect = .ok (node.tokens grammar.toMarks (Condition.spell dialect)) := by
  obtain ⟨content, parent, opening, closing, position⟩ := node
  cases content with
  | condition condition =>
    obtain ⟨part, rendered⟩ := Condition.sql_accepted dialect (accepted condition rfl)
    simp only [Node.sql, Content.sql, Node.tokens, Condition.spell, rendered]
    rfl
  | connective connective => cases connective <;> rfl

theorem Node.sql_of_refused {node : Node} {condition : Condition}
    (held : node.condition? = some condition) (refused : condition.isRefused dialect = true) :
    node.sql dialect = .error (.dialectUnsupported "Matches" dialect) := by
  obtain ⟨content, parent, opening, closing, position⟩ := node
  cases content with
  | connective connective => cases held
  | condition other =>
    cases held
    simp only [Node.sql, Content.sql, Condition.sql_refused dialect refused]
    rfl

end Predicate

namespace Predicate

variable {predicate : Predicate}

theorem sql_of_accepted
    (accepted : ∀ condition ∈ predicate.conditions, condition.isRefused dialect = false) :
    predicate.sql dialect =
      .ok (predicate.nodes.flatMap (Node.tokens grammar.toMarks (Condition.spell dialect))) := by
  have each : ∀ node ∈ predicate.nodes, node.sql dialect =
      .ok (node.tokens grammar.toMarks (Condition.spell dialect)) := by
    intro node member
    refine node.sql_of_accepted dialect fun condition held => accepted condition ?_
    exact List.mem_filterMap.mpr ⟨node, member, held⟩
  rw [Predicate.sql, Except.mapM_ok each, List.flatMap_def]
  rfl

theorem sql_of_refused
    (refused : ∃ condition ∈ predicate.conditions, condition.isRefused dialect = true) :
    predicate.sql dialect = .error (.dialectUnsupported "Matches" dialect) := by
  have failed : predicate.nodes.mapM (Node.sql dialect) =
      .error (.dialectUnsupported "Matches" dialect) := by
    apply Except.mapM_error
    · intro node _
      by_cases accepted : ∀ condition, node.condition? = some condition →
          condition.isRefused dialect = false
      · exact .inl ⟨_, node.sql_of_accepted dialect accepted⟩
      · simp only [not_forall, Bool.not_eq_false] at accepted
        obtain ⟨condition, held, refused⟩ := accepted
        exact .inr (node.sql_of_refused dialect held refused)
    · obtain ⟨condition, member, refused⟩ := refused
      obtain ⟨node, memberNode, held⟩ := List.mem_filterMap.mp member
      exact ⟨node, memberNode, node.sql_of_refused dialect held refused⟩
  rw [Predicate.sql, failed]
  rfl

end Predicate

/-- What is compiled of a clause has items wherever it is a test for membership. -/
theorem ConditionIn.isFilled {scope : Scope} {expr : Expr} {negated : Bool} {condition : Condition}
    (compiled : ConditionIn scope expr negated condition) : condition.isFilled = true := by
  cases compiled with
  | constant | column | isInNothing => rfl
  | compare _ compared | mirrored _ _ compared => cases compared <;> rfl
  | isIn member filled inner each =>
    cases each with
    | nil => exact (filled rfl).elim
    | cons => rfl
  | @test kind receiver arguments operand operands reference negated other =>
    cases kind with
    | isIn => exact (other rfl).elim
    | _ => rfl

theorem Predicate.Marks.write_related {tree : Predicate.Tree Condition}
    {rendered : Predicate.Tree Sql} (marks : Marks Sql.Chunk)
    (related : Tree.Related (Condition.Renders dialect) tree rendered)
    (outer : Option Connective) :
    marks.write (Condition.spell dialect) outer tree = marks.write id outer rendered := by
  induction related generalizing outer with
  | leaf same => exact same.spell
  | branch _ _ first second => simp only [Marks.write, first, second]

theorem Predicate.sql_error {predicate : Predicate} :
    (∃ error, predicate.sql dialect = .error error) ↔
      (dialect = .sqlServer ∨ dialect = .sqlLite) ∧
        ∃ condition ∈ predicate.conditions, condition.isMatch = true := by
  constructor
  · rintro ⟨error, failed⟩
    by_cases refused : ∃ condition ∈ predicate.conditions, condition.isRefused dialect = true
    · obtain ⟨condition, member, refused⟩ := refused
      simp only [Condition.isRefused, Bool.and_eq_true, Bool.or_eq_true,
        decide_eq_true_eq] at refused
      exact ⟨refused.1, condition, member, refused.2⟩
    · simp only [not_exists, not_and, Bool.not_eq_true] at refused
      rw [predicate.sql_of_accepted dialect refused] at failed
      cases failed
  · rintro ⟨unknown, condition, member, isMatch⟩
    refine ⟨_, predicate.sql_of_refused dialect ⟨condition, member, ?_⟩⟩
    simpa [Condition.isRefused, isMatch] using unknown

theorem Predicate.accepted_of_sql {predicate : Predicate} {sql : Sql}
    (written : predicate.sql dialect = .ok sql) :
    ∀ condition ∈ predicate.conditions, condition.isRefused dialect = false := by
  intro condition member
  by_contra refused
  rw [Bool.not_eq_false] at refused
  rw [predicate.sql_of_refused dialect ⟨condition, member, refused⟩] at written
  cases written

theorem Predicate.Tree.exists_rendered {tree : Predicate.Tree Condition}
    (accepted : ∀ condition ∈ tree.leaves, condition.isRefused dialect = false)
    (filled : ∀ condition ∈ tree.leaves, condition.isFilled = true) :
    ∃ rendered, Tree.Related (Condition.Renders dialect) tree rendered ∧
      ∀ part ∈ rendered.leaves, Leaf part := by
  have each : ∀ condition ∈ tree.leaves, ∃ part, condition.Renders dialect part ∧ Leaf part := by
    intro condition member
    obtain ⟨part, written⟩ := condition.sql_accepted dialect (accepted condition member)
    exact ⟨part, written, condition.leaf dialect (filled condition member) written⟩
  obtain ⟨rendered, related⟩ := Tree.Related.exists_of_leaves each
  refine ⟨rendered, related.mono fun _ _ both => both.1, fun part member => ?_⟩
  obtain ⟨condition, _, _, leaf⟩ := related.exists_left member
  exact leaf

theorem Predicate.Tree.leaf_of_nodes {tree : Predicate.Tree Condition}
    (simple : Predicate.hasConnectives ⟨tree.nodes⟩ = false) :
    ∃ condition, tree = .leaf condition := by
  cases tree with
  | leaf condition => exact ⟨condition, rfl⟩
  | branch connective left right =>
    simp [hasConnectives, Tree.nodes, Tree.emit, Node.isConnective] at simple

/-- What is written of a compiled expression is a condition of the language, a primary one if there
are no connectives in it. -/
theorem Expr.compile_derives {expr : Expr} {scope : Scope} {before after : Parameters}
    {predicate : Predicate} {sql : Sql}
    (compiled : expr.compile scope before = (.ok predicate, after))
    (fits : (expr.clauses false).Fits) (written : predicate.sql dialect = .ok sql) :
    ∃ tree rendered, predicate = ⟨tree.nodes⟩ ∧ tree.Fits ∧
      Tree.Related (ClauseIn scope) (expr.clauses false) tree ∧
      Tree.Related (Condition.Renders dialect) tree rendered ∧
      grammar.Derives .whole sql rendered.leftNested ∧
      (predicate.hasConnectives = false → grammar.Derives .primary sql rendered.leftNested) := by
  have accepted := predicate.accepted_of_sql dialect written
  rw [predicate.sql_of_accepted dialect accepted] at written
  cases written
  obtain ⟨tree, rfl, related, _⟩ := Expr.compile_ok compiled
  rw [Predicate.conditions_nodes] at accepted
  have filled : ∀ condition ∈ tree.leaves, condition.isFilled = true := by
    intro condition member
    obtain ⟨clause, _, compiledClause⟩ := related.exists_left member
    exact ConditionIn.isFilled compiledClause
  obtain ⟨rendered, renders, leaves⟩ := Tree.exists_rendered dialect accepted filled
  have fitsTree := related.fits fits
  have spelled : ∀ part ∈ rendered.leaves, grammar.leaf part part :=
    fun part member => ⟨rfl, leaves part member⟩
  have same := Marks.write_related dialect grammar.toMarks renders none
  rw [Tree.nodes_tokens grammar.toMarks (Condition.spell dialect) fitsTree, same]
  refine ⟨tree, rendered, rfl, fitsTree, related, renders,
    grammar.derives_write id rendered spelled, fun simple => ?_⟩
  obtain ⟨condition, rfl⟩ := Tree.leaf_of_nodes simple
  cases renders with
  | @leaf condition part =>
    simp only [Marks.write, Tree.leftNested]
    exact .leaf (spelled part (by simp [Tree.leaves]))

/-- What is written of a compiled expression is a condition of the language, unless the dialect
refuses it. It has one tree only, that of the nodes, and the leaves are what is written of their
conditions. -/
theorem compile_reads_back {expr : Expr} {scope : Scope} {before after : Parameters}
    {predicate : Predicate} (compiled : expr.compile scope before = (.ok predicate, after))
    (fits : (expr.clauses false).Fits) :
    ((∃ error, predicate.sql dialect = .error error) ↔
      (dialect = .sqlServer ∨ dialect = .sqlLite) ∧
        ∃ condition ∈ predicate.conditions, condition.isMatch = true) ∧
    ∀ sql, predicate.sql dialect = .ok sql → ∃ tree rendered, predicate.read? = some tree ∧
      Tree.Related (Condition.Renders dialect) tree rendered ∧
      List.Forall₂ (Condition.Renders dialect) predicate.conditions rendered.leaves ∧
      ∀ other, grammar.Derives .whole sql other ↔ other = rendered := by
  refine ⟨predicate.sql_error dialect, fun sql written => ?_⟩
  obtain ⟨tree, rendered, rfl, fitsTree, _, renders, derived, _⟩ :=
    Expr.compile_derives dialect compiled fits written
  refine ⟨tree.leftNested, rendered.leftNested, Predicate.read?_nodes fitsTree,
    renders.leftNested, ?_, fun other => ⟨fun another => Sql.derives_unique another derived, ?_⟩⟩
  · rw [Tree.leaves_leftNested, Predicate.conditions_nodes]
    exact renders.leaves
  · rintro rfl
    exact derived

theorem compile_reads_back_neither :
    ∃ predicate after sql,
      (Expr.neitherOlderNorNameless ⟨"", "", []⟩).compile (.single ⟨"", "", []⟩) .empty =
        (.ok predicate, after) ∧
      predicate.sql .postgres = .ok sql ∧
      ∃ tree, ∀ other, grammar.Derives .whole sql other ↔ other = tree := by
  refine ⟨_, _, _, rfl, rfl, ?_⟩
  have compiled : (Expr.neitherOlderNorNameless ⟨"", "", []⟩).compile (.single ⟨"", "", []⟩)
      .empty = (.ok _, _) := rfl
  obtain ⟨tree, rendered, _, _, _, only⟩ :=
    (compile_reads_back .postgres compiled (by decide)).2 _ rfl
  exact ⟨rendered, only⟩

end TypedSql
