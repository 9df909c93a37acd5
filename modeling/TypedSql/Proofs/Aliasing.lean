import TypedSql.Proofs.Aliases.Register

namespace TypedSql.Aliases

variable {aliases : Aliases} {table : Table} {qualifier : Alias} {error : Error}

theorem contains_iff :
    aliases.contains table = true ↔ ∃ qualifier, aliases.get? table = some qualifier :=
  Option.isSome_iff_exists

theorem require_ok_iff :
    aliases.require table = .ok qualifier ↔ aliases.get? table = some qualifier := by
  unfold require
  cases aliases.get? table <;> simp

theorem require_error_iff :
    aliases.require table = .error error ↔
      aliases.get? table = none ∧ error = .aliasNotFound table.name := by
  unfold require
  cases aliases.get? table <;> simp [eq_comm]

theorem request_error_iff :
    (aliases.request table).1 = .error error ↔
      error = .aliasCapacityExceeded capacity ∧ table ∉ aliases.tables ∧
        aliases.tables.length = capacity := by
  have came := aliases.requested table
  generalize (aliases.request table).1 = result, (aliases.request table).2 = after at came
  cases came with
  | known has => simp [mem_of_get? has]
  | new absent room =>
    have notFull : aliases.tables.length ≠ capacity := by omega
    simp [notFull]
  | full absent full => simp [absent, full, eq_comm]

theorem request_of_get? (known : aliases.get? table = some qualifier) :
    aliases.request table = (.ok qualifier, aliases) := by
  have came := aliases.requested table
  generalize outcome : aliases.request table = request at came
  obtain ⟨result, after⟩ := request
  cases came with
  | known has =>
    cases known.symm.trans has
    rfl
  | new absent | full absent => exact (absent (mem_of_get? known)).elim

/-- What is found of a table, what is required, and what stands in the list of the tables is the
same. The places of the list are the codes, and different tables show different aliases. -/
structure Agrees (aliases : Aliases) : Prop where
  listed : ∀ table qualifier,
    (qualifier, table) ∈ aliases.toList ↔ aliases.get? table = some qualifier
  contains : ∀ table,
    aliases.contains table = true ↔ ∃ qualifier, aliases.get? table = some qualifier
  require : ∀ table qualifier,
    aliases.require table = .ok qualifier ↔ aliases.get? table = some qualifier
  missing : ∀ table error, aliases.require table = .error error ↔
    aliases.get? table = none ∧ error = .aliasNotFound table.name
  codes : aliases.toList.map (fun entry => entry.1.code.toNat) = List.range aliases.tables.length
  tables : aliases.toList.map Prod.snd = aliases.tables
  texts : ∀ {first second : Table} {own other : Alias}, aliases.get? first = some own →
    aliases.get? second = some other → (own.text = other.text ↔ first = second)

theorem agrees (aliases : Aliases) : aliases.Agrees where
  listed _ _ := mem_toList_iff
  contains _ := contains_iff
  require _ _ := require_ok_iff
  missing _ _ := require_error_iff
  codes := map_code_toList aliases
  tables := map_table_toList aliases
  texts {first second own other} known knownOther := by
    constructor
    · intro same
      rw [Alias.text_injective same, get?_eq_some_iff] at known
      rw [get?_eq_some_iff, known] at knownOther
      exact Option.some.inj knownOther
    · rintro rfl
      rw [Option.some.inj (known.symm.trans knownOther)]

/-- Whatever comes, a table keeps its alias and its place in the list. -/
structure Kept (before after : Aliases) : Prop where
  listed : before.toList <+: after.toList
  answered : ∀ {table qualifier}, before.get? table = some qualifier →
    after.get? table = some qualifier ∧ after.require table = .ok qualifier ∧
      after.request table = (.ok qualifier, after)

theorem Extends.kept {before after : Aliases} (extended : before.Extends after) :
    before.Kept after where
  listed := toList_prefix extended
  answered known :=
    have known := extended.get? known
    ⟨known, require_ok_iff.mpr known, request_of_get? known⟩

/-- Whatever tables are asked for, the first 255 distinct ones are registered in the order in which
they came, each under its number from 0 on, and every call is answered by the alias of its table
there, or by an error if it has none. All lookups agree at any time. A further call finds the alias
of its table, gives out the next one, or, if the table is new and 255 are registered, fails and
changes nothing. Aliases that are stored when they are given out are the same ones. -/
theorem aliases_stable (calls : List Table) :
    let answers := (empty.serve calls).1
    let aliases := (empty.serve calls).2
    aliases.tables = calls.eraseDups.take 255 ∧
      (∀ table number, number < 255 → calls.eraseDups[number]? = some table →
        ∃ qualifier, aliases.get? table = some qualifier ∧ qualifier.code.toNat = number) ∧
      answers = calls.map aliases.answer ∧ aliases.Agrees ∧
      (∀ table, aliases.Requested table (aliases.request table).1 (aliases.request table).2) ∧
      (∀ table error, (aliases.request table).1 = .error error ↔
        error = .aliasCapacityExceeded 255 ∧ table ∉ aliases.tables ∧
          aliases.tables.length = 255) ∧
      (∀ more, aliases.Kept (aliases.serve more).2) ∧
      Register.empty.run calls = (answers, aliases.register) ∧
      ∀ table, aliases.register.get? table = aliases.get? table := by
  intro answers aliases
  have tables : aliases.tables = calls.eraseDups.take 255 := empty.serve_tables calls
  refine ⟨tables, ?_, empty.serve_answers calls, aliases.agrees, aliases.requested,
    fun _ _ => request_error_iff, fun more => (aliases.serve_extends more).kept,
    empty.run_register calls, aliases.get?_register⟩
  intro table number low placed
  have here : aliases.tables[number]? = some table := by
    rw [tables, List.getElem?_take_of_lt low, placed]
  have code : number.toUInt8.toNat = number :=
    toNat_toUInt8 (Nat.le_of_lt (List.getElem?_eq_some_iff.mp here).1)
  exact ⟨⟨number.toUInt8⟩, get?_eq_some_iff.mpr (by rwa [code]), code⟩

/-- Two tables of one name are two tables. -/
example : (empty.serve [⟨"a", "T", []⟩, ⟨"b", "T", []⟩, ⟨"a", "T", []⟩]).2.toList.map
    (fun entry => (entry.1.text, entry.2.key)) = [("a", "a"), ("b", "b")] := by
  decide

end TypedSql.Aliases
