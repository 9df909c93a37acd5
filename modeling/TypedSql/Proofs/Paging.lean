import TypedSql.Proofs.Statement.Paging

namespace TypedSql

open Sql

/-- The query chooses the rows of a page by the rules of the dialect. -/
structure Sql.Chooses (dialect : Dialect) (sql : Sql) (page : Page) : Prop where
  window : ∃ window, sql.window? dialect = some window ∧
    ∀ {Row : Type} (rows : List Row), rows.length < 2 ^ 64 →
      window.rows rows = (rows.drop (page.offset.getD 0)).take (page.limit.getD rows.length)
  apart : .TOP ∉ words sql ∨ .OFFSET ∉ words sql
  once : (words sql).count .ORDER ≤ 1
  ordered : dialect = .sqlServer → ∀ before after, sql = before ++ .keyword .OFFSET :: after →
    keywords [.ORDER, .BY] <:+: before

theorem Sql.prefix_of_append_eq {α : Type} {item : α} {first rest before after : List α}
    (absent : item ∉ first) (split : first ++ rest = before ++ item :: after) :
    first <+: before := by
  rcases List.append_eq_append_iff.mp split with ⟨more, rfl, _⟩ | ⟨more, rfl, same⟩
  · exact List.prefix_append first more
  · cases more with
    | nil => simp
    | cons head more =>
      cases same
      simp at absent

namespace Select

section

variable {select : Select} {dialect : Dialect} {filter : Sql}
  (own : ∀ name ∈ words filter, name = .WHERE ∨ name.isConditional = true)

include own

theorem top_not_mem (topless : select.page.top dialect = []) :
    .TOP ∉ words (select.heading dialect filter ++ select.page.clause dialect true) := by
  rw [words_append, List.mem_append]
  rintro (member | member)
  · exact (heading_quiet own member).2 rfl topless
  · exact absurd ((select.page.clause_ends dialect).2 _ member) (by decide)

theorem window?_eq :
    window? dialect (select.heading dialect filter ++ select.page.clause dialect true) =
      some (select.page.window dialect) := by
  have early : ∀ name ∈ words (select.heading dialect filter), name.opensPage = false :=
    fun name member => (heading_quiet own member).1
  rcases select.page.top_cases dialect with topless | ⟨rfl, limit, single⟩
  · rw [window?_append (top_not_mem own topless) early (select.page.clause_ends dialect).1]
    exact select.page.page?_clause dialect topless
  · have written : select.heading .sqlServer filter ++ select.page.clause .sqlServer true =
        .keyword .SELECT :: .keyword .TOP :: parens [.number limit] ++
          (select.middle filter ++ select.ordering) := by
      simp [heading, single, Page.top, Page.order, Page.clause]
    rw [written, single]
    refine window?_top fun name member => ?_
    rw [words_append, List.mem_append] at member
    rcases member with middle | order
    · exact (middle_quiet own middle).1
    · exact (ordering_quiet order).1

theorem heading_chooses :
    Sql.Chooses dialect (select.heading dialect filter ++ select.page.clause dialect true)
      select.page := by
  have ends := (select.page.clause_ends dialect).2
  refine ⟨⟨select.page.window dialect, window?_eq own,
    fun rows => select.page.rows_window dialect⟩, ?_, ?_, ?_⟩
  · rcases select.page.top_cases dialect with topless | ⟨rfl, limit, single⟩
    · exact .inl (top_not_mem own topless)
    · have ended : select.page.clause .sqlServer true = [] := by simp [single, Page.clause]
      rw [ended, List.append_nil]
      exact .inr fun member => absurd (heading_quiet own member).1 (by decide)
  · have others : .ORDER ∉ words (select.page.clause dialect true) :=
      fun member => absurd (ends _ member) (by decide)
    rw [words_append, List.count_append, List.count_eq_zero.mpr others]
    exact count_heading own
  · rintro rfl before after split
    have late : .keyword .OFFSET ∉ select.heading .sqlServer filter :=
      fun member => absurd (heading_quiet own (mem_words.mpr member)).1 (by decide)
    have skips : select.page.offset ≠ none := by
      intro none
      have ended : select.page.clause .sqlServer true = [] := by simp [Page.clause, none]
      rw [ended, List.append_nil] at split
      exact late (split ▸ by simp)
    exact (order_infix_heading filter skips).trans (prefix_of_append_eq late split).isInfix

end

end Select

/-- However the rows of a table are filtered and ordered, the query chooses by the rules of each
dialect those of its page. -/
theorem select_chooses {select : Select} {dialect : Dialect} {statement : Statement}
    (rendered : select.render dialect = .ok statement) :
    ∃ sql, select.sql dialect .empty = (.ok sql, statement.parameters) ∧
      statement.sql = sql.render dialect .upper ∧ sql.Chooses dialect select.page := by
  unfold Select.render Statement.make at rendered
  split at rendered
  · rename_i sql parameters written
    cases rendered
    refine ⟨sql, written, rfl, ?_⟩
    obtain ⟨filter, filtered, rfl⟩ := Select.sql_ok written
    exact Select.heading_chooses (Target.words_clause filtered)
  · cases rendered

/-- The third page of ten rows, of those with a name that are not older than nine. -/
def Select.thirdPage : Select :=
  let table : Table := ⟨"Person", "Person", [⟨"Name", ⟨.string, true⟩⟩, ⟨"Age", ⟨.int32, false⟩⟩]⟩
  (((all table).filter (.neitherOlderNorNameless table)).offset 20).limit 10

theorem select_chooses_thirdPage :
    ∃ statement sql, Select.thirdPage.render .sqlServer = .ok statement ∧
      statement.sql = "SELECT [Name], [Age] FROM [Person] WHERE [Age] <= @Age0 AND [Name] " ++
        "IS NOT NULL ORDER BY (SELECT NULL) OFFSET 20 ROWS FETCH NEXT 10 ROWS ONLY" ∧
      Select.thirdPage.sql .sqlServer .empty = (.ok sql, statement.parameters) ∧
      Sql.Chooses .sqlServer sql ⟨some 10, some 20⟩ := by
  have rendered : Select.thirdPage.render .sqlServer = .ok _ := rfl
  obtain ⟨sql, written, _, chooses⟩ := select_chooses rendered
  exact ⟨_, sql, rendered, by decide +kernel, written, chooses⟩

end TypedSql
