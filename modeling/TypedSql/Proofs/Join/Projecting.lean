import TypedSql.Proofs.Aliases
import TypedSql.Proofs.Join.Building
import TypedSql.Proofs.Join.Claiming

namespace TypedSql

/-- The table has a field of exactly this name and type. -/
def Table.Offers (table : Table) (name : String) (type : FieldType) : Prop :=
  ∃ field ∈ table.fields, field.name = name ∧ field.type.field = type

namespace Projection

/-- What is found for a property that is still free: the first table that offers it. -/
inductive Finds (tables : List (Alias × Table)) (property : String) (target : FieldType) :
    Option Source → Prop
  | first {before after : List (Alias × Table)} {qualifier : Alias} {table : Table}
      (split : tables = before ++ (qualifier, table) :: after)
      (earlier : ∀ other ∈ before, ¬other.2.Offers property target)
      (offers : table.Offers property target) :
      Finds tables property target (some ⟨qualifier, property, target, none⟩)
  | nothing (without : ∀ entry ∈ tables, ¬entry.2.Offers property target) :
      Finds tables property target none

theorem field?_eq_none_iff {table : Table} {name : String} {type : FieldType} :
    table.field? name type = none ↔ ¬table.Offers name type := by
  simp [Table.field?, Table.Offers]

theorem field?_eq_some {table : Table} {name : String} {type : FieldType} {field : Field}
    (found : table.field? name type = some field) :
    field.name = name ∧ field.type.field = type ∧ table.Offers name type := by
  have same : field.name = name ∧ field.type.field = type := by
    simpa using List.find?_some found
  exact ⟨same.1, same.2, field, List.mem_of_find?_eq_some found, same.1, same.2⟩

theorem Binding.match?_finds (binding : Binding) (tables : List (Alias × Table)) :
    Finds tables binding.property binding.target (binding.match? tables) := by
  cases found : binding.match? tables with
  | none =>
    refine .nothing fun entry member => ?_
    have none := List.findSome?_eq_none_iff.mp found entry member
    exact field?_eq_none_iff.mp (Option.map_eq_none_iff.mp none)
  | some source =>
    obtain ⟨before, ⟨qualifier, table⟩, after, split, here, earlier⟩ :=
      List.findSome?_eq_some_iff.mp found
    obtain ⟨field, isField, rfl⟩ := Option.map_eq_some_iff.mp here
    obtain ⟨name, type, offers⟩ := field?_eq_some isField
    rw [name, type]
    refine .first split (fun other member => ?_) offers
    exact field?_eq_none_iff.mp (Option.map_eq_none_iff.mp (earlier other member))

theorem Binding.autoBind_of_occupied {binding : Binding} (taken : binding.isOccupied = true)
    (tables : List (Alias × Table)) : binding.autoBind tables = binding :=
  if_pos taken

theorem Binding.autoBind_of_free {binding : Binding} (free : binding.isOccupied = false)
    (tables : List (Alias × Table)) :
    binding.autoBind tables = { binding with source := binding.match? tables } :=
  if_neg (by simp [free])

theorem Binding.autoBind_autoBind (binding : Binding) (tables : List (Alias × Table)) :
    (binding.autoBind tables).autoBind tables = binding.autoBind tables := by
  cases taken : binding.isOccupied with
  | true => simp only [autoBind_of_occupied taken]
  | false =>
    rw [autoBind_of_free taken]
    -- The source that is looked for depends on the property and its type only.
    unfold autoBind
    split <;> rfl

theorem autoBind_autoBind (projection : Projection) (aliases : Aliases) :
    (projection.autoBind aliases).autoBind aliases = projection.autoBind aliases := by
  simp only [autoBind, List.map_map, Function.comp_def, Binding.autoBind_autoBind]

theorem outline_autoBind (projection : Projection) (aliases : Aliases) :
    (projection.autoBind aliases).outline = projection.outline := by
  have kept (binding : Binding) (tables : List (Alias × Table)) :
      ((binding.autoBind tables).property, (binding.autoBind tables).target) =
        (binding.property, binding.target) := by
    unfold Binding.autoBind
    split <;> rfl
  simp only [outline, autoBind, List.map_map, Function.comp_def, kept]

end Projection

namespace Join

def Instruction.cast? : Instruction → Option (String × String × FieldType)
  | castLeft property column type | castRight property column type => some (property, column, type)
  | _ => none

/-- The property, the column and the type of each cast of a script, in order. -/
def casts (script : List Instruction) : List (String × String × FieldType) :=
  script.filterMap Instruction.cast?

/-- What a cast says of a claim. The table that its column is read from follows from the step. -/
def castOf (claim : Projection.Claim) : String × String × FieldType :=
  (claim.property, claim.column, claim.type)

def Stage.projection : Stage → Projection
  | draft state => state.join.projection
  | pending state => state.join.projection
  | step state => state.join.projection

/-- Both tables of an open pair have an alias. -/
structure Step.IsQualified (state : Step) : Prop where
  left : ∃ qualifier, state.join.aliases.get? state.left = some qualifier
  right : ∃ qualifier, state.join.aliases.get? state.right = some qualifier

def Stage.IsQualified : Stage → Prop
  | step state => state.IsQualified
  | _ => True

/-- Between two stages these casts were claimed in turn, and nothing else happened to the
projection. -/
structure Stage.Claims (before after : Stage) (casts : List (String × String × FieldType)) :
    Prop where
  qualified : after.IsQualified
  projection : ∃ claims : List Projection.Claim, claims.map castOf = casts ∧
    after.projection = before.projection.attemptAll claims

theorem Pending.on_qualified {pending : Pending} {left right : String} {state : Step}
    (linked : pending.on left right = .ok state) : state.IsQualified := by
  obtain ⟨earlier, aliases, own, more, opened, _, given, rfl⟩ := Pending.on_ok linked
  have extended := Aliases.aliasFor_extends given
  have known {table : Table} {qualifier : Alias} {before after : Aliases}
      (given : before.aliasFor table = .ok (qualifier, after)) :
      after.get? table = some qualifier := by
    rcases Aliases.aliasFor_ok given with ⟨rfl, known⟩ | ⟨_, tables, code⟩
    · exact known
    · rw [Aliases.get?_eq_some_iff, tables, code]
      exact List.getElem?_concat_length
  refine ⟨⟨earlier, extended.get? ?_⟩, own, known given⟩
  rcases opened with ⟨_, givenLeft⟩ | ⟨_, required, rfl⟩
  · exact known givenLeft
  · exact Aliases.require_ok required

/-- A cast of a column of a table with an alias is a claim. -/
theorem Step.cast_of_get? {state : Step} {table : Table} {qualifier : Alias}
    (known : state.join.aliases.get? table = some qualifier) (property column : String)
    (type : FieldType) :
    state.cast table property column type =
      { state with
        join.projection :=
          (state.join.projection.attempt ⟨property, qualifier, column, type⟩).2 } := by
  unfold Step.cast Projection.attempt
  rw [known]
  dsimp only
  cases state.join.projection.claim property qualifier column type <;> rfl

theorem Step.cast_claims {state : Step} (qualified : state.IsQualified) {table : Table}
    {qualifier : Alias} (known : state.join.aliases.get? table = some qualifier)
    (property column : String) (type : FieldType) :
    Stage.Claims (.step state) (.step (state.cast table property column type))
      [(property, column, type)] := by
  rw [Step.cast_of_get? known]
  exact ⟨⟨qualified.left, qualified.right⟩, [⟨property, qualifier, column, type⟩], rfl, rfl⟩

theorem Step.follow_claims {before after : Step} {instruction : Instruction}
    (qualified : before.IsQualified) (followed : before.follow instruction = .ok after) :
    Stage.Claims (.step before) (.step after) instruction.cast?.toList := by
  cases instruction with
  | and | or =>
    cases followed
    exact ⟨⟨qualified.left, qualified.right⟩, [], rfl, rfl⟩
  | filter condition =>
    obtain ⟨predicate, parameters, _, rfl⟩ := Step.filter_ok (Except.mapError_ok.mp followed)
    exact ⟨⟨qualified.left, qualified.right⟩, [], rfl, rfl⟩
  | castLeft property column type =>
    cases followed
    obtain ⟨qualifier, known⟩ := qualified.left
    exact Step.cast_claims qualified known property column type
  | castRight property column type =>
    cases followed
    obtain ⟨qualifier, known⟩ := qualified.right
    exact Step.cast_claims qualified known property column type
  | orderBy table column direction =>
    obtain ⟨qualifier, _, rfl⟩ := Step.orderBy_ok (Except.mapError_ok.mp followed)
    exact ⟨⟨qualified.left, qualified.right⟩, [], rfl, rfl⟩
  | add | on | next => cases followed

/-- One instruction claims what it casts, if it is a cast. -/
theorem Stage.follow_claims {before after : Stage} {instruction : Instruction}
    (qualified : before.IsQualified) (followed : before.follow instruction = .ok after) :
    Stage.Claims before after instruction.cast?.toList := by
  unfold Stage.follow at followed
  split at followed
  · cases followed
    exact ⟨trivial, [], rfl, rfl⟩
  · obtain ⟨state, linked, rfl⟩ := Except.map_ok.mp followed
    have linked := Except.mapError_ok.mp linked
    have qualified := Pending.on_qualified linked
    obtain ⟨_, _, _, _, _, _, _, rfl⟩ := Pending.on_ok linked
    exact ⟨qualified, [], rfl, rfl⟩
  · cases followed
    exact ⟨trivial, [], rfl, rfl⟩
  · obtain ⟨state, followedStep, rfl⟩ := Except.map_ok.mp followed
    exact Step.follow_claims qualified followedStep
  · cases followed

theorem Stage.run_claims {stage : Stage} {number : Nat} {script : List Instruction} {join : Join}
    (qualified : stage.IsQualified) (built : stage.run number script = .ok join) :
    ∃ claims, claims.map castOf = casts script ∧
      join.projection = (stage.projection.attemptAll claims).autoBind join.aliases := by
  induction script generalizing stage number with
  | nil =>
    cases stage with
    | draft | pending => cases built
    | step state =>
      cases built
      exact ⟨[], rfl, rfl⟩
  | cons instruction rest ih =>
    obtain ⟨next, followed, built⟩ := Except.bind_ok.mp built
    have claimed := Stage.follow_claims qualified (Except.mapError_ok.mp followed)
    obtain ⟨later, casts, projection⟩ := ih claimed.qualified built
    obtain ⟨own, castsOwn, projectionOwn⟩ := claimed.projection
    refine ⟨own ++ later, ?_, ?_⟩
    · rw [List.map_append, casts, castsOwn]
      cases held : instruction.cast? <;> simp [Join.casts, held]
    · rw [projection, projectionOwn, Projection.attemptAll, Projection.attemptAll,
        Projection.attemptAll, List.foldl_append]

/-- The projection of a join is what the casts of its script claim in turn, and what is then bound
to the properties that are still free. -/
theorem build_claims {output : Table} {script : List Instruction} {join : Join}
    (built : build output script = .ok join) :
    ∃ claims, claims.map castOf = casts script ∧
      join.projection =
        ((Projection.ofTable output).attemptAll claims).autoBind join.aliases := by
  have qualified : (Stage.draft (start output)).IsQualified := trivial
  exact Stage.run_claims qualified built

end Join

end TypedSql
