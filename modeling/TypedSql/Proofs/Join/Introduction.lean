import TypedSql.Proofs.Join.Scoping
import TypedSql.Proofs.Sql.Introduction
import TypedSql.Proofs.Sql.Naming

namespace TypedSql

open Sql

namespace Join

variable {script : List Instruction} {join : Join} {dialect : Dialect}

/-- A column is that of a table that has an alias. -/
def IsAliased (aliases : Aliases) (qualifier : Option Alias) : Prop :=
  ∃ known, qualifier = some known ∧ aliases.Registered known

section

variable {filters : List Predicate} {clause : Sql} {allowed : Option Alias → Prop}

theorem filterClause_isAbout
    (each : ∀ filter ∈ filters, ∀ column ∈ filter.columns, allowed column.qualifier)
    (filtered : filterClause dialect filters = .ok clause) : IsAbout allowed clause := by
  obtain ⟨parts, written, rfl⟩ := filterClause_ok filtered
  have about : ∀ sql ∈ parts, IsAbout allowed sql := by
    intro sql member
    obtain ⟨filter, listed, writtenPart⟩ := Except.mem_of_mapM_ok written member
    obtain ⟨inner, rendered, rfl⟩ := part_ok writtenPart
    have own := filter.isAbout_sql dialect (each filter listed) rendered
    split
    · exact isAbout_parens.mpr own
    · exact own
  split
  · exact isAbout_nil
  · exact isAbout_cons.mpr ⟨by simp, isAbout_join (by decide) about⟩

theorem filterClause_head? (filtered : filterClause dialect filters = .ok clause) :
    ∀ chunk ∈ clause.head?, chunk = .keyword .WHERE := by
  obtain ⟨parts, _, rfl⟩ := filterClause_ok filtered
  intro chunk first
  split at first
  · cases first
  · exact (Option.some.inj first).symm

end

theorem orderBy_isAbout (allowed : Option Alias → Prop)
    {order : List (Alias × String × Direction)}
    (each : ∀ entry ∈ order, allowed (some entry.1)) :
    IsAbout allowed (orderBy (order.map fun (qualifier, column, direction) =>
      ([.column (some qualifier) column], direction))) := by
  unfold orderBy
  split
  · exact isAbout_nil
  · refine isAbout_append.mpr ⟨by simp [keywords], isAbout_commas ?_⟩
    intro part member
    simp only [List.map_map, List.mem_map] at member
    obtain ⟨⟨qualifier, column, direction⟩, listed, rfl⟩ := member
    cases direction <;> simpa [Direction.keyword] using each _ listed

theorem orderBy_head? {columns : List (Sql × Direction)} :
    ∀ chunk ∈ (orderBy columns).head?, chunk = .keyword .ORDER := by
  intro chunk first
  unfold orderBy at first
  split at first
  · cases first
  · exact (Option.some.inj first).symm

theorem Scoped.filters_aliased (sound : join.Scoped script) :
    ∀ filter ∈ join.pairs.flatMap Pair.filters, ∀ column ∈ filter.columns,
      IsAliased join.aliases column.qualifier := by
  intro filter member column named
  obtain ⟨pair, listed, own⟩ := List.mem_flatMap.mp member
  obtain ⟨place, found⟩ := List.mem_iff_getElem?.mp listed
  obtain ⟨condition, _, columns⟩ := ((sound.pairs place pair found).filters filter own).source
  obtain ⟨index, inRange, rfl⟩ := List.getElem_of_mem named
  have within := columns.get (by rw [columns.length_eq]; exact inRange) inRange
  obtain ⟨qualifier, same, known⟩ := ColumnIn.aliased within
  exact ⟨qualifier, same, Aliases.registered_of_get? known⟩

/-- A join is written as the columns that are read, its tables, and what filters and orders their
rows. -/
theorem Scoped.sql_ok {sql : Sql} (sound : join.Scoped script)
    (written : join.sql dialect = .ok sql) :
    ∃ qualifier table rows, join.base? = some (qualifier, table) ∧
      sql = .keyword .SELECT :: commas (selection dialect join.projection) ++
        .keyword .FROM :: aliasedTable qualifier table ++ join.pairs.flatMap Pair.sql ++ rows ∧
      IsAbout (IsAliased join.aliases) rows ∧
      ∀ chunk ∈ rows.head?, chunk = .keyword .WHERE ∨ chunk = .keyword .ORDER := by
  obtain ⟨qualifier, table, clause, base, filtered, rfl⟩ := Join.sql_ok written
  have about := filterClause_isAbout sound.filters_aliased filtered
  have ordered := orderBy_isAbout (IsAliased join.aliases) fun entry member =>
    ⟨entry.1, rfl, sound.order entry member⟩
  refine ⟨qualifier, table, _, base, List.append_assoc _ _ _,
    isAbout_append.mpr ⟨about, ordered⟩, fun chunk head => ?_⟩
  rw [List.head?_append] at head
  rcases Option.or_eq_some_iff.mp head with first | ⟨_, first⟩
  · exact .inl (filterClause_head? filtered chunk first)
  · exact .inr (orderBy_head? chunk first)

theorem mem_selection {projection : Projection} {chunk : Chunk}
    (member : chunk ∈ commas (selection dialect projection)) :
    (∀ keyword, chunk = .keyword keyword → keyword = .AS) ∧
      ∀ qualifier name, chunk = .column qualifier name → ∃ binding ∈ projection.bindings,
        ∃ source, binding.source = some source ∧ qualifier = some source.qualifier := by
  rcases mem_of_mem_join member with rfl | ⟨part, listed, inside⟩
  · simp [Chunk.keyword]
  · obtain ⟨binding, memberBinding, bound⟩ := List.mem_filterMap.mp listed
    obtain ⟨source, isSource, rfl⟩ := Option.map_eq_some_iff.mp bound
    have shape : (∀ keyword, chunk = .keyword keyword → keyword = .AS) ∧
        ∀ qualifier name, chunk = .column qualifier name → qualifier = some source.qualifier := by
      unfold selected at inside
      dsimp only at inside
      cases cast : source.cast with
      | none =>
        simp only [cast, List.mem_append, List.mem_cons, List.not_mem_nil, or_false] at inside
        rcases inside with rfl | rfl | rfl <;> simp [Chunk.keyword]
      | some type =>
        simp only [cast, call, parens, List.mem_append, List.mem_cons, List.not_mem_nil,
          or_false] at inside
        rcases inside with (rfl | (rfl | rfl | rfl | rfl) | rfl) | rfl | rfl <;>
          simp [Chunk.keyword, Chunk.mark]
    refine ⟨shape.1, fun qualifier name same => ?_⟩
    exact ⟨binding, memberBinding, source, isSource, shape.2 qualifier name same⟩

section

variable {pair : Pair}

theorem mem_links_sql {links : List Link} {chunk : Chunk}
    (member : chunk ∈ links.flatMap Link.sql) :
    ∃ link ∈ links, chunk = .keyword link.combinator.keyword ∨ chunk = .mark .equal ∨
      chunk = .column (some link.rightAlias) link.rightColumn ∨
      chunk = .column (some link.leftAlias) link.leftColumn := by
  obtain ⟨link, listed, inside⟩ := List.mem_flatMap.mp member
  simp only [Link.sql, List.mem_cons, List.not_mem_nil, or_false] at inside
  refine ⟨link, listed, ?_⟩
  rcases inside with rfl | rfl | rfl | rfl <;> simp

theorem PairIn.columns_own {aliases : Aliases} {place : Nat} {qualifier : Option Alias}
    {name : String} (within : PairIn script aliases place pair)
    (member : .column qualifier name ∈ pair.sql) :
    qualifier = some pair.left ∨ qualifier = some pair.right := by
  rcases List.mem_append.mp member with table | links
  · simp [keywords, Chunk.keyword, aliasedTable] at table
  · obtain ⟨link, listed, same | same | same | same⟩ := mem_links_sql links
    · cases same
    · cases same
    · cases same
      exact .inr (congrArg some (within.own link listed).2)
    · cases same
      exact .inl (congrArg some (within.own link listed).1)

theorem PairIn.column_aliased {aliases : Aliases} {place : Nat} {qualifier : Option Alias}
    {name : String} (within : PairIn script aliases place pair)
    (member : .column qualifier name ∈ pair.sql) : IsAliased aliases qualifier := by
  have inRange := (List.getElem?_eq_some_iff.mp within.table).1
  rcases within.columns_own member with rfl | rfl
  · have earlier := within.left
    exact ⟨_, rfl, Aliases.registered_iff.mpr (by omega)⟩
  · have next := within.right
    exact ⟨_, rfl, Aliases.registered_iff.mpr (by omega)⟩

theorem Pair.mem_introductions {before after : Sql}
    (split : pair.sql = before ++ .keyword .ON :: after) :
    (pair.table.name, pair.right.text) ∈ introductions before := by
  have notTable : Chunk.keyword .ON ∉
      keywords pair.kind.keywords ++ aliasedTable pair.right pair.table := by
    cases pair.kind <;> simp [keywords, Kind.keywords, aliasedTable, Chunk.keyword]
  rcases split_append split with ⟨rest, inTable, _⟩ | ⟨earlier, _, rfl⟩
  · simp [inTable] at notTable
  · cases pair.kind <;> exact List.mem_cons_self

theorem introductions_links (links : List Link) : introductions (links.flatMap Link.sql) = [] := by
  apply introductions_of_no_identifier
  intro name member
  obtain ⟨link, _, same | same | same | same⟩ := mem_links_sql member <;> cases same

theorem links_isSeparate (links : List Link) : IsSeparate (links.flatMap Link.sql) := by
  intro chunk first
  cases links with
  | nil => cases first
  | cons link rest => exact ⟨_, (Option.some.inj first).symm⟩

theorem introductions_pair (pair : Pair) :
    introductions pair.sql = [(pair.table.name, pair.right.text)] := by
  rw [Pair.sql, introductions_append (links_isSeparate pair.links), introductions_links]
  cases pair.kind <;> rfl

theorem mem_pair_head (pair : Pair) : ∀ chunk ∈ pair.sql.head?,
    chunk.endsLinks = true ∧ ∃ token, chunk = .token token := by
  intro chunk first
  obtain ⟨kind, left, right, table, links, filters⟩ := pair
  cases kind <;> (cases first; exact ⟨rfl, _, rfl⟩)

theorem mem_pairs_head {pairs : List Pair} : ∀ chunk ∈ (pairs.flatMap Pair.sql).head?,
    chunk.endsLinks = true ∧ ∃ token, chunk = .token token := by
  intro chunk first
  cases pairs with
  | nil => cases first
  | cons pair rest =>
    apply mem_pair_head pair chunk
    have nonempty : pair.sql ≠ [] := by
      obtain ⟨kind, left, right, table, links, filters⟩ := pair
      cases kind <;> simp [Pair.sql, Kind.keywords, keywords]
    rwa [List.flatMap_cons, List.head?_append_of_ne_nil _ nonempty] at first

theorem introductions_pairs (pairs : List Pair) :
    introductions (pairs.flatMap Pair.sql) =
      pairs.map fun pair => (pair.table.name, pair.right.text) := by
  induction pairs with
  | nil => rfl
  | cons first rest ih =>
    have separate : IsSeparate (rest.flatMap Pair.sql) := fun chunk head =>
      (mem_pairs_head chunk head).2
    rw [List.flatMap_cons, introductions_append separate, introductions_pair, ih]
    rfl

end

/-- The tables of a join are its base and those of its pairs. -/
theorem Scoped.tail_toList (sound : join.Scoped script) (paired : join.pairs ≠ []) :
    join.aliases.toList.tail = join.pairs.map fun pair => (pair.right, pair.table) := by
  have count := sound.count
  rw [if_neg (by simpa using paired)] at count
  apply List.ext_getElem
  · simp [Aliases.toList, count]
  · intro place first second
    have inRange : place < join.pairs.length := by simpa using second
    have within := sound.pairs place _ (List.getElem?_eq_getElem inRange)
    obtain ⟨_, isTable⟩ := List.getElem?_eq_some_iff.mp within.table
    have code : (⟨(place + 1).toUInt8⟩ : Alias) = join.pairs[place].right := by
      have same : (place + 1).toUInt8 = join.pairs[place].right.code := by
        apply UInt8.toNat_inj.mp
        have bound : place + 1 ≤ join.aliases.tables.length := by omega
        rw [within.right, Aliases.toNat_toUInt8 bound]
      rw [same]
    simp only [Aliases.toList, List.getElem_tail, List.getElem_map, List.getElem_zipIdx,
      Nat.zero_add, isTable, code]

theorem Scoped.toList_eq {qualifier : Alias} {table : Table} (sound : join.Scoped script)
    (paired : join.pairs ≠ []) (base : join.base? = some (qualifier, table)) :
    join.aliases.toList =
      (qualifier, table) :: join.pairs.map fun pair => (pair.right, pair.table) := by
  rw [← sound.tail_toList paired]
  obtain ⟨tail, listed⟩ := List.head?_eq_some_iff.mp base
  rw [listed]
  rfl

theorem base_code {qualifier : Alias} {table : Table}
    (base : join.base? = some (qualifier, table)) : qualifier.code.toNat = 0 := by
  obtain ⟨tail, listed⟩ := List.head?_eq_some_iff.mp base
  have codes := join.aliases.map_code_toList
  rw [listed, List.map_cons] at codes
  cases count : join.aliases.tables.length with
  | zero => simp [count] at codes
  | succ others =>
    rw [count, List.range_succ_eq_map] at codes
    exact (List.cons.inj codes).1

/-- An alias given no later than that of a pair is the base or belongs to an earlier pair. -/
theorem Scoped.introduced_before {earlier later : List Pair} {pair : Pair}
    {base qualifier : Alias} {table : Table} (sound : join.Scoped script)
    (pairs : join.pairs = earlier ++ pair :: later)
    (isBase : join.base? = some (base, table)) (early : qualifier.code.toNat < earlier.length + 1) :
    qualifier = base ∨ ∃ other ∈ earlier, other.right = qualifier := by
  have same : ∀ other : Alias, other.code.toNat = qualifier.code.toNat → other = qualifier := by
    rintro ⟨code⟩ equal
    exact congrArg Alias.mk (UInt8.toNat_inj.mp equal)
  cases code : qualifier.code.toNat with
  | zero => exact .inl (same base (by rw [base_code isBase, code])).symm
  | succ place =>
    have inRange : place < earlier.length := by omega
    have found : join.pairs[place]? = some earlier[place] := by
      rw [pairs, List.getElem?_append_left inRange, List.getElem?_eq_getElem inRange]
    have right := (sound.pairs place _ found).right
    exact .inr ⟨earlier[place], List.getElem_mem inRange, same _ (right.trans code.symm)⟩

theorem introductions_selection {projection : Projection} :
    introductions (.keyword .SELECT :: commas (selection dialect projection)) = [] := by
  apply introductions_of_no_keyword
  · intro member
    rcases List.mem_cons.mp member with same | member
    · cases same
    · exact nomatch (mem_selection member).1 _ rfl
  · intro member
    rcases List.mem_cons.mp member with same | member
    · cases same
    · exact nomatch (mem_selection member).1 _ rfl

/-- A statement brings in the tables of the join, each under its alias. -/
theorem Scoped.introductions_sql {sql : Sql} (sound : join.Scoped script)
    (paired : join.pairs ≠ []) (written : join.sql dialect = .ok sql) :
    sql.introductions = join.aliases.toList.map fun entry => (entry.2.name, entry.1.text) := by
  obtain ⟨qualifier, table, rows, base, rfl, about, head⟩ := sound.sql_ok written
  have rowsSeparate : IsSeparate rows := by
    intro chunk first
    rcases head chunk first with same | same
    · exact ⟨_, same⟩
    · exact ⟨_, same⟩
  have pairsSeparate : IsSeparate (join.pairs.flatMap Pair.sql) := fun chunk first =>
    (mem_pairs_head chunk first).2
  have fromSeparate : IsSeparate (.keyword .FROM :: aliasedTable qualifier table) :=
    fun chunk first => ⟨_, (Option.some.inj first).symm⟩
  have fromBase : introductions (.keyword .FROM :: aliasedTable qualifier table) =
      [(table.name, qualifier.text)] := rfl
  have fromRows : introductions rows = [] :=
    introductions_of_no_identifier fun name member => about _ member
  rw [introductions_append rowsSeparate, introductions_append pairsSeparate,
    introductions_append fromSeparate, introductions_selection, fromBase, introductions_pairs,
    fromRows, sound.toList_eq paired base]
  simp

theorem Scoped.columns_aliased {sql : Sql} {qualifier : Option Alias} {name : String}
    (sound : join.Scoped script) (written : join.sql dialect = .ok sql)
    (member : .column qualifier name ∈ sql) : IsAliased join.aliases qualifier := by
  obtain ⟨_, table, rows, _, rfl, about, _⟩ := sound.sql_ok written
  simp only [List.mem_append] at member
  rcases member with ((select | base) | pairs) | rows
  · rcases List.mem_cons.mp select with same | selected
    · cases same
    · obtain ⟨binding, listed, source, isSource, rfl⟩ := (mem_selection selected).2 _ _ rfl
      exact ⟨_, rfl, sound.sources binding listed source isSource⟩
  · simp [aliasedTable, Chunk.keyword] at base
  · obtain ⟨pair, listed, inside⟩ := List.mem_flatMap.mp pairs
    obtain ⟨place, found⟩ := List.mem_iff_getElem?.mp listed
    exact (sound.pairs place pair found).column_aliased inside
  · exact about _ rows

/-- A section `ON` is about tables that are brought in no later than the one that it links. -/
theorem Scoped.links_introduced {sql before after : Sql} {qualifier : Alias} {name : String}
    (sound : join.Scoped script) (written : join.sql dialect = .ok sql)
    (split : sql = before ++ .keyword .ON :: after)
    (member : .column (some qualifier) name ∈ links after) :
    qualifier.text ∈ (introductions before).map Prod.snd := by
  obtain ⟨base, table, rows, isBase, rfl, about, head⟩ := sound.sql_ok written
  have notSelected : Chunk.keyword .ON ∉ .keyword .SELECT ::
      commas (selection dialect join.projection) ++ .keyword .FROM :: aliasedTable base table := by
    intro inside
    rcases List.mem_append.mp inside with select | base
    · rcases List.mem_cons.mp select with same | selected
      · cases same
      · exact nomatch (mem_selection selected).1 _ rfl
    · simp [aliasedTable, Chunk.keyword] at base
  have notRows : Chunk.keyword .ON ∉ rows := fun inside => about _ inside rfl
  obtain ⟨earlier, pair, later, start, rest, pairs, writtenPair, rfl, rfl⟩ :=
    split_between split notSelected notRows
  have ended : ∀ chunk ∈ (later.flatMap Pair.sql ++ rows).head?, chunk.endsLinks = true := by
    intro chunk first
    rw [List.head?_append] at first
    rcases Option.or_eq_some_iff.mp first with first | ⟨_, first⟩
    · exact (mem_pairs_head chunk first).1
    · rcases head chunk first with rfl | rfl
      · rfl
      · rfl
  have inside : .column (some qualifier) name ∈ pair.sql := by
    rw [List.append_assoc] at member
    rw [writtenPair]
    exact List.mem_append_right _ (List.mem_cons_of_mem _ (mem_of_mem_links ended member))
  have within := sound.pairs earlier.length pair (by simp [pairs])
  rcases within.columns_own inside with own | own
  · have early : qualifier.code.toNat < earlier.length + 1 := Option.some.inj own ▸ within.left
    rcases sound.introduced_before pairs isBase early with rfl | ⟨other, listed, rfl⟩
    · have fromBase : (table.name, qualifier.text) ∈
          introductions (.keyword .FROM :: aliasedTable qualifier table) := List.mem_cons_self
      exact List.mem_map_of_mem (f := Prod.snd) (mem_introductions_append
        (.inl (mem_introductions_append (.inl (mem_introductions_append (.inr fromBase))))))
    · have fromPair : (other.table.name, other.right.text) ∈
          introductions (earlier.flatMap Pair.sql) := by
        rw [introductions_pairs]
        exact List.mem_map.mpr ⟨other, listed, rfl⟩
      exact List.mem_map_of_mem (f := Prod.snd)
        (mem_introductions_append (.inl (mem_introductions_append (.inr fromPair))))
  · obtain rfl := Option.some.inj own
    have fromPair := Pair.mem_introductions writtenPair
    exact List.mem_map_of_mem (f := Prod.snd) (mem_introductions_append (.inr fromPair))

end Join

end TypedSql
