import TypedSql.Proofs.Compilation.Run
import TypedSql.Proofs.Text.Like
import TypedSql.Sql.Condition

namespace TypedSql

namespace Expr

def search (kind : Test) (receiver : Expr) (part : String) : Expr :=
  call (.test kind) receiver [literal (.string part)]

theorem evaluate_search {kind : Test} (searches : kind.isSearch = true) (text part : String) :
    (search kind (literal (.string text)) part).evaluate = .ok (.bool (kind.onText text part)) := by
  cases kind with
  | contains | startsWith | endsWith => rfl
  | _ => cases searches

theorem compile_search {kind : Test} (searches : kind.isSearch = true) {scope : Scope}
    {reference : ColumnRef} {qualifier : Option Alias}
    (resolved : scope.resolve reference.table = .ok qualifier) (part : String)
    (before : Parameters) :
    (search kind (column reference) part).compile scope before =
      let (name, after) := before.allocate reference.name (.string (kind.pattern part))
      (.ok ⟨(Predicate.Tree.leaf (.test kind (.column qualifier reference.name reference.type)
        [.parameter name (.string (kind.pattern part))] false)).nodes⟩, after) := by
  have found : Compile.column scope reference =
      pure (.column qualifier reference.name reference.type) := by
    simp only [Compile.column, resolved]
    rfl
  cases kind with
  | contains | startsWith | endsWith =>
    simp only [compile, search, Compile.tree, Compile.condition, Compile.test, Compile.argument,
      Compile.operand, isBound, found]
    rfl
  | _ => cases searches

end Expr

/-- A search for a text in a column is written as `LIKE` a pattern that a parameter holds. A text
in which evaluation finds what is searched for is like the pattern. The converse holds of all texts
if and only if no wildcard is searched for, since none is escaped. -/
theorem like_agrees_iff_plain {kind : Test} (searches : kind.isSearch = true) {scope : Scope}
    {reference : ColumnRef} {qualifier : Option Alias}
    (resolved : scope.resolve reference.table = .ok qualifier) (part : String)
    (before : Parameters) :
    ∃ predicate name after,
      (Expr.search kind (.column reference) part).compile scope before = (.ok predicate, after) ∧
      before.Extends after [⟨name, .string (kind.pattern part)⟩] ∧
      (∀ dialect, predicate.sql dialect =
        .ok [.column qualifier reference.name, .keyword .LIKE, .parameter name]) ∧
      (∀ text, (Expr.search kind (.literal (.string text)) part).evaluate = .ok (.bool true) →
        Text.isLike (kind.pattern part).toList text.toList = true) ∧
      ((∀ text : String, Text.isLike (kind.pattern part).toList text.toList = true ↔
          (Expr.search kind (.literal (.string text)) part).evaluate = .ok (.bool true)) ↔
        ∀ c ∈ part.toList, Text.isWildcard c = false) := by
  have finds : ∀ text, (Expr.search kind (.literal (.string text)) part).evaluate =
      .ok (.bool true) ↔ kind.onText text part = true := by
    intro text
    simp [Expr.evaluate_search searches]
  refine ⟨_, _, _, Expr.compile_search searches resolved part before,
    before.allocate_extends reference.name _, ?_, ?_, ?_⟩
  · intro dialect
    cases kind with
    | contains | startsWith | endsWith => rfl
    | _ => cases searches
  · intro text evaluated
    exact Test.isLike_of_onText searches ((finds text).mp evaluated)
  · simp only [finds]
    exact Test.isLike_pattern_eq_onText_iff searches part

theorem like_agrees_iff_plain_name :
    ∃ predicate after,
      (Expr.search .contains (.column ⟨⟨"a", "a", []⟩, "Name", .string⟩) "a_c").compile
        (.single ⟨"a", "a", []⟩) .empty = (.ok predicate, after) ∧
      ¬ ∀ text : String, Text.isLike (Test.contains.pattern "a_c").toList text.toList = true ↔
        (Expr.search .contains (.literal (.string text)) "a_c").evaluate = .ok (.bool true) := by
  obtain ⟨predicate, _, after, compiled, _, _, _, agrees⟩ :=
    @like_agrees_iff_plain .contains rfl (.single ⟨"a", "a", []⟩)
      ⟨⟨"a", "a", []⟩, "Name", .string⟩ none rfl "a_c" .empty
  refine ⟨predicate, after, compiled, fun all => ?_⟩
  have plain := agrees.mp all '_' (by decide)
  cases plain

/-- `abc` is like the pattern of a search for `a_c`, in which evaluation does not find it. -/
theorem wildcard_unescaped :
    ((Expr.search .contains (.column ⟨⟨"a", "a", []⟩, "Name", .string⟩) "a_c").compile
      (.single ⟨"a", "a", []⟩) .empty).2.entries = [⟨"Name0", .string "%a_c%"⟩] ∧
    Text.isLike "%a_c%".toList "abc".toList = true ∧
    (Expr.search .contains (.literal (.string "abc")) "a_c").evaluate = .ok (.bool false) :=
  ⟨rfl, by decide, rfl⟩

end TypedSql
