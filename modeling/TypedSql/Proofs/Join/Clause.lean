import TypedSql.Proofs.Join.Filtering
import TypedSql.Proofs.Meaning.Preservation
import TypedSql.Proofs.Sql.Section

namespace TypedSql

open Sql
open Predicate (Tree)

namespace Join

variable {dialect : Dialect} {aliases : Aliases} {conditions : List Expr}
  {filters : List Predicate}

/-- What is written of a filter is a condition, and a primary one among others. -/
theorem Compiled.derives {isGrouped : Bool} {condition : Expr} {filter : Predicate} {sql : Sql}
    (compiled : Compiled aliases condition filter) (fits : (condition.clauses false).Fits)
    (written : part dialect isGrouped filter = .ok sql) :
    ∃ tree rendered, filter.read? = some tree ∧
      Tree.Related (Condition.Renders dialect) tree rendered ∧
      grammar.Derives .whole sql rendered ∧
      (isGrouped = true → grammar.Derives .primary sql rendered) := by
  obtain ⟨known, before, after, _, compiled⟩ := compiled
  obtain ⟨inner, writtenInner, rfl⟩ := part_ok written
  obtain ⟨tree, rendered, same, fitsTree, _, renders, whole, primary⟩ :=
    Expr.compile_derives dialect compiled fits writtenInner
  have read : filter.read? = some tree.leftNested := by
    rw [same]
    exact Predicate.read?_nodes fitsTree
  refine ⟨tree.leftNested, rendered.leftNested, read, renders.leftNested, ?_⟩
  split
  · have group : grammar.Derives .primary (parens inner) rendered.leftNested := .group whole
    exact ⟨group.toChain, fun _ => group⟩
  · rename_i plain
    refine ⟨whole, fun grouped => primary ?_⟩
    simpa [grouped] using plain

theorem parts_derive {parts : List Sql}
    (compiled : List.Forall₂ (Compiled aliases) conditions filters)
    (fits : ∀ condition ∈ conditions, (condition.clauses false).Fits)
    (written : List.Forall₂ (fun filter sql => part dialect true filter = .ok sql) filters parts) :
    ∃ trees rendered, List.Forall₂ (fun filter tree => filter.read? = some tree) filters trees ∧
      List.Forall₂ (Tree.Related (Condition.Renders dialect)) trees rendered ∧
      List.Forall₂ (grammar.Derives .primary) parts rendered := by
  induction compiled generalizing parts with
  | nil =>
    cases written
    exact ⟨[], [], .nil, .nil, .nil⟩
  | cons first _ ih =>
    obtain _ | ⟨own, written⟩ := written
    obtain ⟨fitsFirst, fitsRest⟩ := List.forall_mem_cons.mp fits
    obtain ⟨tree, rendered, read, renders, _, primary⟩ := first.derives fitsFirst own
    obtain ⟨trees, others, reads, rendersRest, primaries⟩ := ih fitsRest written
    exact ⟨tree :: trees, rendered :: others, .cons read reads, .cons renders rendersRest,
      .cons (primary rfl) primaries⟩

/-- The section `WHERE` is a condition whose tree is the conjunction of those of the filters. -/
theorem filterClause_derives {clause : Sql}
    (compiled : List.Forall₂ (Compiled aliases) conditions filters)
    (fits : ∀ condition ∈ conditions, (condition.clauses false).Fits)
    (filtered : filterClause dialect filters = .ok clause) :
    conditions = [] ∧ clause = [] ∨
      conditions ≠ [] ∧ ∃ sql trees tree rendered, clause = .keyword .WHERE :: sql ∧
        List.Forall₂ (fun filter tree => filter.read? = some tree) filters trees ∧
        Tree.conjunction? trees = some tree ∧
        Tree.Related (Condition.Renders dialect) tree rendered ∧
        grammar.Derives .whole sql rendered := by
  obtain ⟨parts, each, rfl⟩ := filterClause_ok filtered
  have written := Except.mapM_ok_iff.mp each
  cases compiled with
  | nil => exact .inl ⟨rfl, rfl⟩
  | @cons condition filter conditions filters first rest =>
    refine .inr ⟨List.cons_ne_nil _ _, ?_⟩
    cases rest with
    | nil =>
      obtain _ | ⟨own, written⟩ := written
      cases written
      obtain ⟨tree, rendered, read, renders, whole, _⟩ := first.derives (fits _ (by simp)) own
      exact ⟨_, [tree], tree, rendered, rfl, .cons read .nil, rfl, renders,
        by simpa [join] using whole⟩
    | @cons _ other _ others second rest =>
      have several : decide ((filter :: other :: others).length > 1) = true := by simp
      rw [several] at written
      obtain ⟨trees, rendered, reads, renders, primaries⟩ :=
        parts_derive (.cons first (.cons second rest)) fits written
      cases reads with
      | cons read reads =>
        obtain _ | ⟨headRenders, tailRenders⟩ := renders
        obtain _ | ⟨head, tail⟩ := primaries
        exact ⟨_, _, _, _, rfl, .cons read reads, rfl, headRenders.conjoin tailRenders,
          (derives_join head.toChain tail).toWhole⟩

section

variable {Rank : Type} [LinearOrder Rank] (interpretation : Interpretation Rank)

/-- A filter means what its condition means, also when more tables have an alias. -/
theorem Compiled.truth {condition : Expr} {filter : Predicate}
    (compiled : Compiled aliases condition filter) (fits : (condition.clauses false).Fits) :
    ∃ truth, condition.truth? interpretation = some truth ∧
      filter.truth? interpretation (.aliased aliases) = some truth := by
  obtain ⟨known, before, after, earlier, compiled⟩ := compiled
  obtain ⟨tree, rfl, related, _⟩ := Expr.compile_ok compiled
  have extended := related.mono fun _ _ clause => ConditionIn.extend earlier.scope clause
  exact nodes_truth interpretation extended (related.fits fits)

theorem truths (compiled : List.Forall₂ (Compiled aliases) conditions filters)
    (fits : ∀ condition ∈ conditions, (condition.clauses false).Fits) :
    ∃ truths,
      List.Forall₂ (fun condition truth => condition.truth? interpretation = some truth) conditions
        truths ∧
      List.Forall₂ (fun filter truth => filter.truth? interpretation (.aliased aliases) =
        some truth) filters truths := by
  induction compiled with
  | nil => exact ⟨[], .nil, .nil⟩
  | cons first _ ih =>
    obtain ⟨fitsFirst, fitsRest⟩ := List.forall_mem_cons.mp fits
    obtain ⟨truth, read, held⟩ := first.truth interpretation fitsFirst
    obtain ⟨truths, readRest, heldRest⟩ := ih fitsRest
    exact ⟨truth :: truths, .cons read readRest, .cons held heldRest⟩

theorem trees_truth {scope : Scope} {trees : List (Predicate.Tree Condition)} {truths : List Truth}
    (read : List.Forall₂ (fun filter tree => filter.read? = some tree) filters trees)
    (held : List.Forall₂ (fun filter truth => filter.truth? interpretation scope = some truth)
      filters truths) :
    List.Forall₂ (fun tree truth => tree.fold Connective.truth?
      (Condition.truth? interpretation scope) = some truth) trees truths := by
  induction read generalizing truths with
  | nil =>
    cases held
    exact .nil
  | cons first _ ih =>
    obtain _ | ⟨own, held⟩ := held
    refine .cons ?_ (ih held)
    simpa [Predicate.truth?, first] using own

end

section

variable {join : Join}

theorem selection_eq_nil {projection : Projection} :
    selection dialect projection = [] ↔ projection.occupied = [] := by
  simp [selection, Projection.occupied, Projection.Binding.isOccupied, List.filterMap_eq_nil_iff]

theorem Scoped.base?_isSome {script : List Instruction} (sound : join.Scoped script)
    (paired : join.pairs ≠ []) : join.base? ≠ none := by
  have count := sound.count
  rw [if_neg (by simpa using paired)] at count
  simp only [base?, ne_eq, List.head?_eq_none_iff]
  intro none
  have empty := congrArg List.length none
  simp [Aliases.toList, count] at empty

theorem not_where_pairs (pairs : List Pair) :
    Chunk.keyword .WHERE ∉ pairs.flatMap Pair.sql := by
  intro member
  obtain ⟨pair, _, inside⟩ := List.mem_flatMap.mp member
  rcases List.mem_append.mp inside with table | links
  · cases kind : pair.kind <;>
      simp [kind, keywords, Kind.keywords, aliasedTable, Chunk.keyword] at table
  · obtain ⟨link, _, same | same | same | same⟩ := mem_links_sql links
    · cases written : link.combinator <;> rw [written] at same <;> cases same
    · cases same
    · cases same
    · cases same

theorem not_where_order (order : List (Alias × String × Direction)) :
    Chunk.keyword .WHERE ∉ orderBy (order.map fun (qualifier, column, direction) =>
      ([.column (some qualifier) column], direction)) := by
  intro member
  unfold orderBy at member
  split at member
  · cases member
  · rcases List.mem_append.mp member with words | columns
    · simp [keywords, Chunk.keyword] at words
    · rcases mem_of_mem_join columns with same | ⟨part, listed, inside⟩
      · cases same
      · simp only [List.map_map, List.mem_map] at listed
        obtain ⟨⟨qualifier, column, direction⟩, _, rfl⟩ := listed
        cases direction <;> simp [Chunk.keyword, Direction.keyword] at inside

/-- A statement has a section `WHERE` if there are conditions, whose conjunction it is. -/
theorem whereSection?_sql {sql : Sql} (written : join.sql dialect = .ok sql)
    (compiled : List.Forall₂ (Compiled aliases) conditions join.filters)
    (fits : ∀ condition ∈ conditions, (condition.clauses false).Fits) :
    conditions = [] ∧ whereSection? sql = none ∨
      conditions ≠ [] ∧ ∃ own trees tree rendered, whereSection? sql = some own ∧
        List.Forall₂ (fun filter tree => filter.read? = some tree) join.filters trees ∧
        Tree.conjunction? trees = some tree ∧
        Tree.Related (Condition.Renders dialect) tree rendered ∧
        grammar.Derives .whole own rendered := by
  obtain ⟨qualifier, table, clause, _, filtered, rfl⟩ := Join.sql_ok written
  have absent : Chunk.keyword .WHERE ∉ .keyword .SELECT ::
      commas (selection dialect join.projection) ++ .keyword .FROM :: aliasedTable qualifier table ++
        join.pairs.flatMap Pair.sql := by
    intro member
    rcases List.mem_append.mp member with head | pairs
    · rcases List.mem_append.mp head with select | base
      · rcases List.mem_cons.mp select with same | selected
        · cases same
        · exact nomatch (mem_selection selected).1 _ rfl
      · simp [aliasedTable, Chunk.keyword] at base
    · exact not_where_pairs join.pairs pairs
  rcases filterClause_derives compiled fits filtered with
    ⟨none, rfl⟩ | ⟨some, own, trees, tree, rendered, rfl, reads, whole, renders, derived⟩
  · refine .inl ⟨none, whereSection?_none ?_⟩
    rw [List.append_nil, List.mem_append, not_or]
    exact ⟨absent, not_where_order join.order⟩
  · refine .inr ⟨some, own, trees, tree, rendered, ?_, reads, whole, renders, derived⟩
    exact whereSection?_some absent (not_order_of_derives derived) orderBy_head?

end

end Join

end TypedSql
