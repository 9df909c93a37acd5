import TypedSql.Proofs.Compilation.Columns
import TypedSql.Proofs.Compilation.Extension
import TypedSql.Proofs.Join.Building

namespace TypedSql

/-- Whether a table goes by the alias. -/
def Aliases.Registered (aliases : Aliases) (qualifier : Alias) : Prop :=
  ∃ table, (qualifier, table) ∈ aliases.toList

namespace Aliases

variable {aliases before after : Aliases} {qualifier : Alias}

theorem registered_of_get? {table : Table} (known : aliases.get? table = some qualifier) :
    aliases.Registered qualifier :=
  ⟨table, mem_toList_iff.mpr known⟩

theorem Extends.registered (extended : Extends before after)
    (registered : before.Registered qualifier) : after.Registered qualifier := by
  obtain ⟨table, member⟩ := registered
  exact registered_of_get? (extended.get? (mem_toList_iff.mp member))

/-- The aliases are given in their order, so that those of the tables come first. -/
theorem registered_iff :
    aliases.Registered qualifier ↔ qualifier.code.toNat < aliases.tables.length := by
  constructor
  · rintro ⟨table, member⟩
    exact code_lt (mem_toList_iff.mp member)
  · intro inRange
    have isTable := List.getElem?_eq_getElem inRange
    exact registered_of_get? (get?_eq_some_iff.mpr isTable)

end Aliases

theorem ColumnIn.aliased {aliases : Aliases} {reference : ColumnRef} {column : QualifiedColumn}
    (within : ColumnIn (.aliased aliases) reference column) :
    ∃ qualifier, column.qualifier = some qualifier ∧
      aliases.get? reference.table = some qualifier := by
  obtain ⟨qualifier, given, same⟩ := Except.map_ok.mp within.resolved
  exact ⟨qualifier, same.symm, Aliases.require_ok given⟩

theorem ColumnIn.extend {before after : Aliases} {reference : ColumnRef}
    {column : QualifiedColumn} (extended : before.Extends after)
    (within : ColumnIn (.aliased before) reference column) :
    ColumnIn (.aliased after) reference column :=
  ⟨extended.scope _ _ within.resolved, within.name, within.type⟩

namespace Join

/-- A filter of a pair comes from a condition of the script. Its columns are those of the condition
under the aliases of their own tables, none of which comes after the pair. -/
structure FilterIn (script : List Instruction) (aliases : Aliases) (place : Nat)
    (filter : Predicate) : Prop where
  source : ∃ condition, .filter condition ∈ script ∧
    List.Forall₂ (ColumnIn (.aliased aliases)) condition.storedColumns filter.columns
  bounded : ∀ column ∈ filter.columns, ∃ qualifier, column.qualifier = some qualifier ∧
    qualifier.code.toNat ≤ place + 1

/-- A pair in its place among the pairs of a join: it links the next table to an earlier one. -/
structure PairIn (script : List Instruction) (aliases : Aliases) (place : Nat) (pair : Pair) :
    Prop where
  right : pair.right.code.toNat = place + 1
  table : aliases.tables[place + 1]? = some pair.table
  left : pair.left.code.toNat < place + 1
  linked : ∃ first rest, pair.links = first :: rest ∧ first.combinator = .on ∧
    ∀ link ∈ rest, link.combinator ≠ .on
  own : ∀ link ∈ pair.links, link.leftAlias = pair.left ∧ link.rightAlias = pair.right
  filters : ∀ filter ∈ pair.filters, FilterIn script aliases place filter

/-- A join under construction without an open pair. Its first pair brings in two tables, each
later one brings in one. -/
structure Scoped (script : List Instruction) (join : Join) : Prop where
  count : join.aliases.tables.length = if join.pairs.isEmpty then 0 else join.pairs.length + 1
  pairs : ∀ place pair, join.pairs[place]? = some pair → PairIn script join.aliases place pair
  order : ∀ entry ∈ join.order, join.aliases.Registered entry.1
  sources : ∀ binding ∈ join.projection.bindings, ∀ source, binding.source = some source →
    join.aliases.Registered source.qualifier

def Stage.Scoped (script : List Instruction) : Stage → Prop
  | draft state => state.join.Scoped script
  | pending state => state.join.Scoped script
  | step state => state.next.join.Scoped script

section

variable {script : List Instruction} {before after : Aliases} {place : Nat}

theorem FilterIn.extend {filter : Predicate} (extended : before.Extends after)
    (within : FilterIn script before place filter) : FilterIn script after place filter := by
  obtain ⟨condition, written, columns⟩ := within.source
  have columnsAfter := columns.imp fun _ _ column => ColumnIn.extend extended column
  exact ⟨⟨condition, written, columnsAfter⟩, within.bounded⟩

theorem PairIn.extend {pair : Pair} (extended : before.Extends after)
    (within : PairIn script before place pair) : PairIn script after place pair := by
  have tableAfter : after.tables[place + 1]? = some pair.table := by
    obtain ⟨inRange, isTable⟩ := List.getElem?_eq_some_iff.mp within.table
    rw [List.prefix_iff_getElem?.mp extended _ inRange, isTable]
  exact { within with
    table := tableAfter
    filters := fun filter member => (within.filters filter member).extend extended }

end

theorem forall_concat {pairs : List Pair} {last : Pair} {P : Nat → Pair → Prop} :
    (∀ place pair, (pairs ++ [last])[place]? = some pair → P place pair) ↔
      (∀ place pair, pairs[place]? = some pair → P place pair) ∧ P pairs.length last := by
  constructor
  · intro each
    refine ⟨fun place pair found => each place pair ?_, each _ _ (by simp)⟩
    have inRange := (List.getElem?_eq_some_iff.mp found).1
    rw [List.getElem?_append_left inRange, found]
  · rintro ⟨each, final⟩ place pair found
    rcases Nat.lt_or_ge place pairs.length with inRange | beyond
    · rw [List.getElem?_append_left inRange] at found
      exact each place pair found
    · rw [List.getElem?_append_right beyond] at found
      have isLast : place = pairs.length := by
        have single := (List.getElem?_eq_some_iff.mp found).1
        simp only [List.length_singleton] at single
        omega
      subst isLast
      have same : last = pair := by simpa using found
      exact same ▸ final

section

variable {script : List Instruction} {join : Join}

theorem Scoped.start (output : Table) : (start output).join.Scoped script where
  count := rfl
  pairs := by simp [Join.start]
  order := by simp [Join.start]
  sources := by
    intro binding member source bound
    obtain ⟨field, _, rfl⟩ := List.mem_map.mp member
    cases bound

/-- A pair joins those before it with a table of its own. -/
theorem Scoped.push {aliases : Aliases} {pair : Pair} (sound : join.Scoped script)
    (extended : join.aliases.Extends aliases)
    (count : aliases.tables.length = join.pairs.length + 2)
    (within : PairIn script aliases join.pairs.length pair) :
    Scoped script { join with aliases, pairs := join.pairs ++ [pair] } where
  count := by simp [count]
  pairs := forall_concat.mpr
    ⟨fun place other found => (sound.pairs place other found).extend extended, within⟩
  order := fun entry member => extended.registered (sound.order entry member)
  sources := fun binding member source bound =>
    extended.registered (sound.sources binding member source bound)

theorem Scoped.replaceLast (join : Join) {pairs : List Pair} (last other : Pair)
    (sound : Scoped script { join with pairs := pairs ++ [last] })
    (grown : PairIn script join.aliases pairs.length last →
      PairIn script join.aliases pairs.length other) :
    Scoped script { join with pairs := pairs ++ [other] } where
  count := by simpa using sound.count
  pairs := by
    obtain ⟨each, final⟩ := forall_concat.mp sound.pairs
    exact forall_concat.mpr ⟨each, grown final⟩
  order := sound.order
  sources := sound.sources

end

section

variable {script : List Instruction}

theorem PairIn.link {aliases : Aliases} {place : Nat} {pair : Pair} {combinator : Combinator}
    (within : PairIn script aliases place pair) (further : combinator ≠ .on)
    (left right : String) : PairIn script aliases place (pair.link combinator left right) where
  right := within.right
  table := within.table
  left := within.left
  linked := by
    obtain ⟨first, rest, links, opened, later⟩ := within.linked
    refine ⟨first, rest ++ [⟨combinator, pair.left, left, pair.right, right⟩], ?_, opened, ?_⟩
    · simp [Pair.link, links]
    · intro link member
      rcases List.mem_append.mp member with earlier | last
      · exact later link earlier
      · rw [List.mem_singleton.mp last]
        exact further
  own := by
    intro link member
    rcases List.mem_append.mp member with earlier | last
    · exact within.own link earlier
    · rw [List.mem_singleton.mp last]
      exact ⟨rfl, rfl⟩
  filters := within.filters

/-- Once the left table is aliased and the right one is new, there is a pair of the two. -/
theorem PairIn.opened {before after : Aliases} {place : Nat} {kind : Kind} {table : Table}
    {left right : Alias} (count : before.tables.length = place + 1)
    (known : left.code.toNat < place + 1) (tables : after.tables = before.tables ++ [table])
    (code : right.code.toNat = before.tables.length) (leftColumn rightColumn : String) :
    PairIn script after place
      ((⟨kind, left, right, table, [], []⟩ : Pair).link .on leftColumn rightColumn) where
  right := code.trans count
  table := by
    rw [tables, ← count]
    simp [Pair.link]
  left := known
  linked := ⟨_, [], rfl, rfl, by simp⟩
  own := by
    intro link member
    rw [List.mem_singleton.mp member]
    exact ⟨rfl, rfl⟩
  filters := by simp [Pair.link]

/-- The first pair gives an alias to its left table. -/
theorem Scoped.aliasFor_left {join : Join} {left : Table} {qualifier : Alias} {aliases : Aliases}
    (sound : join.Scoped script) (first : join.pairs.isEmpty = true)
    (given : join.aliases.aliasFor left = .ok (qualifier, aliases)) :
    join.aliases.Extends aliases ∧ aliases.tables.length = join.pairs.length + 1 ∧
      qualifier.code.toNat < join.pairs.length + 1 := by
  have noTables : join.aliases.tables = [] := by
    have count := sound.count
    rw [if_pos first] at count
    exact List.length_eq_zero_iff.mp count
  have noPairs : join.pairs.length = 0 := by simpa using first
  rcases Aliases.aliasFor_ok given with ⟨_, known⟩ | ⟨_, tables, code⟩
  · have placed := Aliases.code_lt known
    simp [noTables] at placed
  · rw [noTables] at tables code
    simp only [List.length_nil] at code
    refine ⟨Aliases.aliasFor_extends given, ?_, by omega⟩
    rw [tables, noPairs]
    rfl

theorem Scoped.require_left {join : Join} {left : Table} {qualifier : Alias}
    (sound : join.Scoped script) (later : ¬join.pairs.isEmpty = true)
    (given : join.aliases.require left = .ok qualifier) :
    join.aliases.Extends join.aliases ∧
      join.aliases.tables.length = join.pairs.length + 1 ∧
      qualifier.code.toNat < join.pairs.length + 1 := by
  have count := sound.count
  rw [if_neg later] at count
  have placed := Aliases.code_lt (Aliases.require_ok given)
  exact ⟨List.prefix_rfl, count, by omega⟩

/-- The right table is new, so that it comes next. -/
theorem Scoped.aliasFor_right {join : Join} {aliases more : Aliases} {kind : Kind} {table : Table}
    {left right : Alias} (sound : join.Scoped script)
    (opened : join.aliases.Extends aliases ∧ aliases.tables.length = join.pairs.length + 1 ∧
      left.code.toNat < join.pairs.length + 1)
    (absent : ¬aliases.contains table = true)
    (given : aliases.aliasFor table = .ok (right, more)) (leftColumn rightColumn : String) :
    Scoped script { join with
      aliases := more
      pairs := join.pairs ++
        [(⟨kind, left, right, table, [], []⟩ : Pair).link .on leftColumn rightColumn] } := by
  obtain ⟨extended, count, known⟩ := opened
  rcases Aliases.aliasFor_ok given with ⟨_, present⟩ | ⟨_, tables, code⟩
  · simp [Aliases.contains, present] at absent
  · have extendedRight := Aliases.aliasFor_extends given
    have countRight : more.tables.length = join.pairs.length + 2 := by
      rw [tables, List.length_append, count]
      rfl
    exact sound.push (extended.trans extendedRight) countRight
      (PairIn.opened count known tables code leftColumn rightColumn)

theorem Pending.on_scoped {pending : Pending} {left right : String} {state : Step}
    (sound : pending.join.Scoped script) (linked : pending.on left right = .ok state) :
    (Stage.step state).Scoped script := by
  obtain ⟨earlier, aliases, own, more, opened, absent, given, rfl⟩ := Pending.on_ok linked
  rcases opened with ⟨first, givenLeft⟩ | ⟨later, required, rfl⟩
  · exact sound.aliasFor_right (sound.aliasFor_left first givenLeft) absent given left right
  · exact sound.aliasFor_right (sound.require_left later required) absent given left right

theorem FilterIn.compile {condition : Expr} {aliases : Aliases} {place : Nat}
    {before after : Parameters} {predicate : Predicate} (written : .filter condition ∈ script)
    (count : aliases.tables.length = place + 2)
    (compiled : condition.compile (.aliased aliases) before = (.ok predicate, after)) :
    FilterIn script aliases place predicate := by
  have columns := Expr.compile_columns compiled
  refine ⟨⟨condition, written, columns⟩, fun column member => ?_⟩
  obtain ⟨place, inRange, rfl⟩ := List.getElem_of_mem member
  have within := columns.get (by rw [columns.length_eq]; exact inRange) inRange
  obtain ⟨qualifier, same, known⟩ := ColumnIn.aliased within
  have placed := Aliases.code_lt known
  exact ⟨qualifier, same, by omega⟩

theorem Step.filter_scoped {before after : Step} {condition : Expr}
    (written : .filter condition ∈ script) (sound : (Stage.step before).Scoped script)
    (filtered : before.filter condition = .ok after) : (Stage.step after).Scoped script := by
  obtain ⟨predicate, parameters, compiled, rfl⟩ := Step.filter_ok filtered
  have count : before.join.aliases.tables.length = before.join.pairs.length + 2 := by
    simpa [Step.next] using sound.count
  have within := FilterIn.compile written count compiled
  have grown := Scoped.replaceLast before.join before.pair
    { before.pair with filters := before.pair.filters ++ [predicate] } sound
    fun pair => { pair with
      filters := by
        intro filter member
        rcases List.mem_append.mp member with earlier | last
        · exact pair.filters filter earlier
        · rw [List.mem_singleton.mp last]
          exact within }
  exact ⟨grown.count, grown.pairs, grown.order, grown.sources⟩

theorem Step.link_scoped {state : Step} {combinator : Combinator}
    (sound : (Stage.step state).Scoped script) (further : combinator ≠ .on) (left right : String) :
    (Stage.step { state with pair := state.pair.link combinator left right }).Scoped script :=
  Scoped.replaceLast state.join state.pair (state.pair.link combinator left right) sound
    fun pair => pair.link further left right

theorem Step.orderBy_scoped {before after : Step} {table : Table} {column : String}
    {direction : Direction} (sound : (Stage.step before).Scoped script)
    (ordered : before.orderBy table column direction = .ok after) :
    (Stage.step after).Scoped script := by
  obtain ⟨qualifier, required, rfl⟩ := Step.orderBy_ok ordered
  have known := Aliases.registered_of_get? (Aliases.require_ok required)
  refine ⟨sound.count, sound.pairs, ?_, sound.sources⟩
  intro entry member
  rcases List.mem_append.mp member with earlier | last
  · exact sound.order entry earlier
  · rw [List.mem_singleton.mp last]
    exact known

theorem claim_source {binding bound : Projection.Binding} {qualifier : Alias} {column : String}
    {type : FieldType} {source : Projection.Source}
    (claim : binding.claim qualifier column type = .ok bound)
    (isSource : bound.source = some source) : source.qualifier = qualifier := by
  unfold Projection.Binding.claim at claim
  split at claim
  · cases claim
    cases isSource
    rfl
  · split at claim
    · cases claim
      cases isSource
      rfl
    · cases claim

theorem claimIn_sources {property column : String} {qualifier : Alias} {type : FieldType}
    {bindings claimed : List Projection.Binding} {P : Alias → Prop} (known : P qualifier)
    (each : ∀ binding ∈ bindings, ∀ source, binding.source = some source → P source.qualifier)
    (claim : Projection.claimIn property qualifier column type bindings = .ok (some claimed)) :
    ∀ binding ∈ claimed, ∀ source, binding.source = some source → P source.qualifier := by
  induction bindings generalizing claimed with
  | nil => cases claim
  | cons first rest ih =>
    have eachRest := fun binding member => each binding (List.mem_cons_of_mem first member)
    rw [Projection.claimIn] at claim
    split at claim
    · split at claim
      · cases claim
      · obtain ⟨bound, claimedFirst, same⟩ := Except.map_ok.mp claim
        cases same
        intro binding member source isSource
        rcases List.mem_cons.mp member with rfl | later
        · have own := claim_source claimedFirst isSource
          exact own ▸ known
        · exact eachRest binding later source isSource
    · obtain ⟨bindings, claimedRest, same⟩ := Except.map_ok.mp claim
      obtain ⟨bindings, rfl, rfl⟩ := Option.map_eq_some_iff.mp same
      intro binding member
      rcases List.mem_cons.mp member with rfl | later
      · exact each binding (by simp)
      · exact ih eachRest claimedRest binding later

theorem Step.cast_scoped {state : Step} (sound : (Stage.step state).Scoped script) (table : Table)
    (property column : String) (type : FieldType) :
    (Stage.step (state.cast table property column type)).Scoped script := by
  obtain ⟨projection, same, kept | ⟨qualifier, won, known, claim⟩⟩ :=
    state.cast_eq table property column type
  · rw [same, kept]
    exact sound
  · rw [same]
    refine ⟨sound.count, sound.pairs, sound.order, ?_⟩
    have registered := Aliases.registered_of_get? known
    obtain ⟨claimed, claimedIn, last⟩ := Except.bind_ok.mp claim
    cases claimed with
    | none =>
      cases last
      exact sound.sources
    | some bindings =>
      cases last
      exact claimIn_sources registered sound.sources claimedIn

theorem Step.follow_scoped {before after : Step} {instruction : Instruction}
    (written : instruction ∈ script) (sound : (Stage.step before).Scoped script)
    (followed : before.follow instruction = .ok after) : (Stage.step after).Scoped script := by
  cases instruction with
  | and left right =>
    cases followed
    exact before.link_scoped sound (by decide) left right
  | or left right =>
    cases followed
    exact before.link_scoped sound (by decide) left right
  | filter condition =>
    exact before.filter_scoped written sound (Except.mapError_ok.mp followed)
  | castLeft property column type =>
    cases followed
    exact before.cast_scoped sound before.left property column type
  | castRight property column type =>
    cases followed
    exact before.cast_scoped sound before.right property column type
  | orderBy table column direction =>
    exact before.orderBy_scoped sound (Except.mapError_ok.mp followed)
  | add | on | next => cases followed

/-- One instruction keeps the join in order. -/
theorem Stage.follow_scoped {before after : Stage} {instruction : Instruction}
    (written : instruction ∈ script) (sound : before.Scoped script)
    (followed : before.follow instruction = .ok after) : after.Scoped script := by
  unfold Stage.follow at followed
  split at followed
  · cases followed
    exact sound
  · obtain ⟨state, linked, rfl⟩ := Except.map_ok.mp followed
    exact Pending.on_scoped sound (Except.mapError_ok.mp linked)
  · cases followed
    exact sound
  · obtain ⟨state, followedStep, rfl⟩ := Except.map_ok.mp followed
    exact Step.follow_scoped written sound followedStep
  · cases followed

theorem autoBind_sources {aliases : Aliases} {projection : Projection}
    (each : ∀ binding ∈ projection.bindings, ∀ source, binding.source = some source →
      aliases.Registered source.qualifier) :
    ∀ binding ∈ (projection.autoBind aliases).bindings, ∀ source,
      binding.source = some source → aliases.Registered source.qualifier := by
  intro binding member source isSource
  obtain ⟨original, listed, rfl⟩ := List.mem_map.mp member
  unfold Projection.Binding.autoBind at isSource
  split at isSource
  · exact each original listed source isSource
  · obtain ⟨⟨qualifier, table⟩, entry, found⟩ := List.exists_of_findSome?_eq_some isSource
    obtain ⟨field, _, rfl⟩ := Option.map_eq_some_iff.mp found
    exact ⟨table, entry⟩

theorem Step.finish_scoped {state : Step} (sound : (Stage.step state).Scoped script) :
    state.finish.Scoped script :=
  ⟨sound.count, sound.pairs, sound.order, autoBind_sources sound.sources⟩

theorem Stage.run_scoped {stage : Stage} {number : Nat} {rest : List Instruction} {join : Join}
    (written : ∀ instruction ∈ rest, instruction ∈ script) (sound : stage.Scoped script)
    (built : stage.run number rest = .ok join) : join.Scoped script ∧ join.pairs ≠ [] := by
  induction rest generalizing stage number with
  | nil =>
    cases stage with
    | draft | pending => cases built
    | step state =>
      cases built
      exact ⟨state.finish_scoped sound, by simp [Step.finish, Step.next]⟩
  | cons instruction rest ih =>
    obtain ⟨next, followed, built⟩ := Except.bind_ok.mp built
    have sooner := Stage.follow_scoped (written instruction (by simp)) sound
      (Except.mapError_ok.mp followed)
    exact ih (fun other member => written other (List.mem_cons_of_mem instruction member))
      sooner built

end

theorem build_scoped {output : Table} {script : List Instruction} {join : Join}
    (built : build output script = .ok join) : join.Scoped script ∧ join.pairs ≠ [] := by
  have started : (Stage.draft (start output)).Scoped script := Scoped.start output
  exact Stage.run_scoped (fun _ member => member) started built

end Join

end TypedSql
