import TypedSql.Proofs.Sql.Window
import TypedSql.Statement.Select

namespace TypedSql

open Sql

namespace Page

variable (page : Page) (dialect : Dialect)

/-- The window of the page. Without a limit, MySQL has a number behind which no rows are. -/
def window : Window :=
  ⟨page.offset.getD 0,
    if dialect = .mySql ∧ page.limit = none ∧ page.offset ≠ none then some 18446744073709551615
    else page.limit⟩

theorem rows_window {Row : Type} {rows : List Row} (short : rows.length < 2 ^ 64) :
    (page.window dialect).rows rows =
      (rows.drop (page.offset.getD 0)).take (page.limit.getD rows.length) := by
  rw [Window.rows_eq]
  unfold window
  dsimp only
  split
  · rename_i unlimited
    have fewer := (List.drop_sublist (page.offset.getD 0) rows).length_le
    rw [unlimited.2.1, Option.getD_some, Option.getD_none, List.take_of_length_le (by omega),
      List.take_of_length_le fewer]
  · rfl

/-- The order that an offset gets in SQL Server where there is no other one. -/
def order (isOrdered : Bool) : Sql :=
  if dialect = .sqlServer ∧ page.offset ≠ none ∧ isOrdered = false then
    keywords [.ORDER, .BY] ++ parens (keywords [.SELECT, .NULL])
  else []

theorem clause_eq (isOrdered : Bool) :
    page.clause dialect isOrdered = page.order dialect isOrdered ++ page.clause dialect true := by
  obtain ⟨_ | limit, _ | offset⟩ := page <;> cases dialect <;> cases isOrdered <;> rfl

theorem top_cases :
    page.top dialect = [] ∨ dialect = .sqlServer ∧ ∃ limit, page = ⟨some limit, none⟩ := by
  obtain ⟨_ | limit, _ | offset⟩ := page <;> cases dialect <;> simp [top]

theorem noLimit?_eq :
    noLimit? .sqlLite = some (.number (-1)) ∧
      noLimit? .mySql = some (.number (18446744073709551615 : Nat)) := by
  decide +kernel

theorem page?_clause (topless : page.top dialect = []) :
    page? dialect (page.clause dialect true) = some (page.window dialect) := by
  obtain ⟨_ | limit, _ | offset⟩ := page
  · cases dialect <;> rfl
  · cases dialect with
    | sqlServer | oracle => exact offsetFetch?_offset offset
    | postgres => exact limitOffset?_offset offset
    | mySql =>
      have written : clause ⟨none, some offset⟩ .mySql true = [.keyword .LIMIT,
          .number (18446744073709551615 : Nat), .keyword .OFFSET, .number offset] := by
        simp [clause, limitOffset, noLimit?_eq]
      rw [written]
      exact limitOffset?_both .mySql offset 18446744073709551615
    | sqlLite =>
      have written : clause ⟨none, some offset⟩ .sqlLite true =
          [.keyword .LIMIT, .number (-1), .keyword .OFFSET, .number offset] := by
        simp [clause, limitOffset, noLimit?_eq]
      rw [written]
      exact limitOffset?_negative offset
  · cases dialect with
    | sqlServer => cases topless
    | oracle => exact offsetFetch?_both 0 limit
    | postgres | mySql | sqlLite => exact limitOffset?_limit _ limit
  · cases dialect with
    | sqlServer | oracle => exact offsetFetch?_both offset limit
    | postgres | mySql | sqlLite => exact limitOffset?_both _ offset limit

theorem words_top : words (page.top dialect) = if page.top dialect = [] then [] else [.TOP] := by
  unfold top
  split <;> simp

theorem words_order (isOrdered : Bool) :
    words (page.order dialect isOrdered) =
      if page.order dialect isOrdered = [] then [] else [.ORDER, .BY, .SELECT, .NULL] := by
  unfold order
  split <;> simp [keywords, parens]

theorem order_quiet {isOrdered : Bool} {name : Keyword}
    (member : name ∈ words (page.order dialect isOrdered)) :
    name.opensPage = false ∧ name ≠ .TOP := by
  rw [words_order] at member
  split at member
  · cases member
  · revert member
    cases name <;> decide

/-- The end of a query begins with one of its keywords, and has no others than these. -/
theorem clause_ends :
    (∀ chunk ∈ (page.clause dialect true).head?, chunk.keyword?.any Keyword.opensPage) ∧
      ∀ name ∈ words (page.clause dialect true),
        name ∈ [.LIMIT, .OFFSET, .ROWS, .FETCH, .NEXT, .ONLY] := by
  obtain ⟨_ | limit, _ | offset⟩ := page <;> cases dialect <;>
    simp [clause, rows, limitOffset, noLimit?, Keyword.opensPage]

end Page

theorem Target.words_clause {target : Target} {dialect : Dialect} {before after : Parameters}
    {filter : Sql} (written : target.clause dialect before = (.ok filter, after)) :
    ∀ name ∈ words filter, name = .WHERE ∨ name.isConditional = true := by
  obtain ⟨table, _ | condition⟩ := target
  · obtain ⟨rfl, rfl⟩ := Compile.pure_ok.mp written
    exact nofun
  · obtain ⟨predicate, middle, compiled, written⟩ := Compile.bind_ok.mp written
    obtain ⟨sql, final, lifted, last⟩ := Compile.bind_ok.mp written
    obtain ⟨rendered, rfl⟩ := Compile.lift_ok.mp lifted
    obtain ⟨rfl, rfl⟩ := Compile.pure_ok.mp last
    have conditional := List.all_eq_true.mp (Expr.compile_isConditional compiled rendered)
    intro name member
    rcases List.mem_append.mp (words_cons ▸ member) with own | inside
    · exact .inl (by simpa using own)
    · exact .inr (conditional name inside)

theorem Direction.keyword_quiet (direction : Direction) :
    direction.keyword.opensPage = false ∧ direction.keyword ≠ .TOP ∧
      direction.keyword ≠ .ORDER := by
  cases direction <;> decide

namespace Select

variable (select : Select)

/-- What stands between the beginning of a query and the order of its rows. -/
def middle (filter : Sql) : Sql :=
  commas (select.target.table.fields.map fun field => [.column none field.name]) ++
    [.keyword .FROM, .identifier select.target.table.name] ++ filter

def ordering : Sql :=
  Sql.orderBy (select.order.map fun (name, direction) => ([.column none name], direction))

/-- A query up to the words at its end that choose rows. -/
def heading (dialect : Dialect) (filter : Sql) : Sql :=
  .keyword .SELECT :: select.page.top dialect ++ select.middle filter ++ select.ordering ++
    select.page.order dialect (!select.order.isEmpty)

theorem sql_ok {dialect : Dialect} {before after : Parameters} {sql : Sql} {select : Select}
    (written : select.sql dialect before = (.ok sql, after)) :
    ∃ filter, select.target.clause dialect before = (.ok filter, after) ∧
      sql = select.heading dialect filter ++ select.page.clause dialect true := by
  obtain ⟨filter, middle, first, last⟩ := Compile.bind_ok.mp written
  obtain ⟨rfl, rfl⟩ := Compile.pure_ok.mp last
  refine ⟨filter, first, ?_⟩
  rw [Page.clause_eq]
  simp [heading, Select.middle, ordering]

theorem words_middle (filter : Sql) : words (select.middle filter) = .FROM :: words filter := by
  simp [middle, words_commas, List.flatMap_map]

theorem words_ordering (filled : select.order ≠ []) :
    words select.ordering = .ORDER :: .BY :: select.order.map (·.2.keyword) := by
  rw [List.map_eq_flatMap]
  simp [ordering, Sql.orderBy, filled, words_commas, List.flatMap_map]

theorem ordering_of_nil (none : select.order = []) : select.ordering = [] := by
  simp [ordering, none, Sql.orderBy]

variable {select} {dialect : Dialect} {filter : Sql} {name : Keyword}

theorem ordering_quiet (member : name ∈ words select.ordering) :
    name.opensPage = false ∧ name ≠ .TOP := by
  by_cases none : select.order = []
  · rw [ordering_of_nil _ none] at member
    cases member
  · rw [words_ordering _ none] at member
    simp only [List.mem_cons, List.mem_map] at member
    rcases member with rfl | rfl | ⟨⟨_, direction⟩, _, rfl⟩
    · decide
    · decide
    · exact ⟨direction.keyword_quiet.1, direction.keyword_quiet.2.1⟩

theorem count_ordering :
    (words select.ordering).count .ORDER = if select.order = [] then 0 else 1 := by
  split
  · rename_i none
    rw [ordering_of_nil _ none]
    rfl
  · rename_i filled
    have others : .ORDER ∉ select.order.map (·.2.keyword) := by
      simp only [List.mem_map, not_exists, not_and]
      exact fun entry _ => entry.2.keyword_quiet.2.2
    rw [words_ordering _ filled, List.count_cons_self, List.count_cons_of_ne (by decide),
      List.count_eq_zero.mpr others]

/-- SQL Server gets an order for each offset. -/
theorem order_infix_heading (filter : Sql) (skips : select.page.offset ≠ none) :
    keywords [.ORDER, .BY] <:+: select.heading .sqlServer filter := by
  unfold heading
  by_cases none : select.order = []
  · refine ⟨.keyword .SELECT :: select.page.top .sqlServer ++ select.middle filter ++
      select.ordering, parens (keywords [.SELECT, .NULL]), ?_⟩
    simp [Page.order, none, skips]
  · refine ⟨.keyword .SELECT :: select.page.top .sqlServer ++ select.middle filter,
      commas (select.order.map fun (name, direction) =>
        [.column Option.none name, .keyword direction.keyword]), ?_⟩
    simp [Page.order, none, ordering, Sql.orderBy, Function.comp_def]

section

variable (own : ∀ name ∈ words filter, name = .WHERE ∨ name.isConditional = true)

include own

theorem middle_quiet (member : name ∈ words (select.middle filter)) :
    name.opensPage = false ∧ name ≠ .TOP ∧ name ≠ .ORDER := by
  rw [words_middle] at member
  rcases List.mem_cons.mp member with rfl | member
  · decide
  · rcases own name member with rfl | conditional
    · decide
    · revert conditional
      cases name <;> decide

/-- No word opens a page before its end, nor does a limit stand behind `SELECT` unasked. -/
theorem heading_quiet (member : name ∈ words (select.heading dialect filter)) :
    name.opensPage = false ∧ (name = .TOP → select.page.top dialect ≠ []) := by
  simp only [heading, words_append, words_cons, List.mem_append] at member
  rcases member with (((select | top) | middle) | order) | given
  · obtain rfl : name = .SELECT := by simpa using select
    exact ⟨rfl, nofun⟩
  · rw [Page.words_top] at top
    split at top
    · cases top
    · rename_i limited
      obtain rfl : name = .TOP := by simpa using top
      exact ⟨rfl, fun _ => limited⟩
  · have quiet := middle_quiet own middle
    exact ⟨quiet.1, fun same => (quiet.2.1 same).elim⟩
  · have quiet := ordering_quiet order
    exact ⟨quiet.1, fun same => (quiet.2 same).elim⟩
  · have quiet := select.page.order_quiet dialect given
    exact ⟨quiet.1, fun same => (quiet.2 same).elim⟩

theorem count_heading : (words (select.heading dialect filter)).count .ORDER ≤ 1 := by
  have others : .ORDER ∉ words (select.middle filter) :=
    fun member => (middle_quiet own member).2.2 rfl
  have limited : .ORDER ∉ words (select.page.top dialect) := by
    rw [Page.words_top]
    split <;> decide
  have count : (words (select.heading dialect filter)).count .ORDER =
      (words select.ordering).count .ORDER +
        (words (select.page.order dialect (!select.order.isEmpty))).count .ORDER := by
    simp [heading, List.count_eq_zero.mpr others, List.count_eq_zero.mpr limited]
  rw [count, count_ordering]
  split
  · rw [Page.words_order]
    split <;> decide
  · rename_i filled
    have given : select.page.order dialect (!select.order.isEmpty) = [] := by
      simp [Page.order, filled]
    rw [given]
    decide

end

end Select

end TypedSql
