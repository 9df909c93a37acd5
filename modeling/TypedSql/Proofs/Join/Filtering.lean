import TypedSql.Proofs.Compilation.Extension
import TypedSql.Proofs.Conjunction
import TypedSql.Proofs.Join.Introduction
import TypedSql.Proofs.Join.Binding

namespace TypedSql

namespace Join

def Instruction.condition? : Instruction → Option Expr
  | filter condition => some condition
  | _ => none

/-- The conditions of a script, in the order in which they are given. -/
def conditions (script : List Instruction) : List Expr :=
  script.filterMap Instruction.condition?

/-- The filter is what the condition was compiled into when some of the tables had an alias. -/
def Compiled (aliases : Aliases) (condition : Expr) (filter : Predicate) : Prop :=
  ∃ known before after, Aliases.Extends known aliases ∧
    condition.compile (.aliased known) before = (.ok filter, after)

theorem Compiled.extend {before after : Aliases} {condition : Expr} {filter : Predicate}
    (extended : before.Extends after) (compiled : Compiled before condition filter) :
    Compiled after condition filter := by
  obtain ⟨known, parameters, more, earlier, compiled⟩ := compiled
  exact ⟨known, parameters, more, earlier.trans extended, compiled⟩

namespace Stage

def aliases : Stage → Aliases
  | draft state => state.join.aliases
  | pending state => state.join.aliases
  | step state => state.join.aliases

def filters : Stage → List Predicate
  | draft state => state.join.filters
  | pending state => state.join.filters
  | step state => state.join.filters ++ state.pair.filters

/-- Between two stages these conditions were compiled, and the tables that had an alias kept it. -/
structure Grows (before after : Stage) (conditions : List Expr) : Prop where
  aliases : before.aliases.Extends after.aliases
  filters : ∃ added, after.filters = before.filters ++ added ∧
    List.Forall₂ (Compiled after.aliases) conditions added

theorem Grows.of_same {before after : Stage} (aliases : before.aliases = after.aliases)
    (filters : before.filters = after.filters) : Grows before after [] :=
  ⟨aliases ▸ List.prefix_rfl, [], by simp [filters], .nil⟩

end Stage

theorem Pending.on_grows {pending : Pending} {left right : String} {state : Step}
    (linked : pending.on left right = .ok state) :
    Stage.Grows (.pending pending) (.step state) [] := by
  obtain ⟨earlier, aliases, own, more, opened, _, given, rfl⟩ := Pending.on_ok linked
  have extended : pending.join.aliases.Extends aliases := by
    rcases opened with ⟨_, givenLeft⟩ | ⟨_, _, rfl⟩
    · exact Aliases.aliasFor_extends givenLeft
    · exact List.prefix_rfl
  refine ⟨extended.trans (Aliases.aliasFor_extends given), [], ?_, .nil⟩
  simp [Stage.filters, filters, Pair.link]

theorem Step.filter_grows {before after : Step} {condition : Expr}
    (filtered : before.filter condition = .ok after) :
    Stage.Grows (.step before) (.step after) [condition] := by
  obtain ⟨predicate, parameters, compiled, rfl⟩ := Step.filter_ok filtered
  refine ⟨List.prefix_rfl, [predicate], ?_, .cons ⟨_, _, _, List.prefix_rfl, compiled⟩ .nil⟩
  simp [Stage.filters, filters, List.append_assoc]

theorem Step.cast_grows (state : Step) (table : Table) (property column : String)
    (type : FieldType) :
    Stage.Grows (.step state) (.step (state.cast table property column type)) [] := by
  obtain ⟨projection, same, _⟩ := state.cast_eq table property column type
  rw [same]
  exact .of_same rfl rfl

theorem Step.follow_grows {before after : Step} {instruction : Instruction}
    (followed : before.follow instruction = .ok after) :
    Stage.Grows (.step before) (.step after) instruction.condition?.toList := by
  cases instruction with
  | and | or =>
    cases followed
    exact .of_same rfl rfl
  | filter condition => exact Step.filter_grows (Except.mapError_ok.mp followed)
  | castLeft property column type =>
    cases followed
    exact before.cast_grows before.left property column type
  | castRight property column type =>
    cases followed
    exact before.cast_grows before.right property column type
  | orderBy table column direction =>
    obtain ⟨qualifier, _, rfl⟩ := Step.orderBy_ok (Except.mapError_ok.mp followed)
    exact .of_same rfl rfl
  | add | on | next => cases followed

/-- One instruction adds the filter of its condition, if it has one, behind the others. -/
theorem Stage.follow_grows {before after : Stage} {instruction : Instruction}
    (followed : before.follow instruction = .ok after) :
    Stage.Grows before after instruction.condition?.toList := by
  unfold Stage.follow at followed
  split at followed
  · cases followed
    exact .of_same rfl rfl
  · obtain ⟨state, linked, rfl⟩ := Except.map_ok.mp followed
    exact Pending.on_grows (Except.mapError_ok.mp linked)
  · cases followed
    exact .of_same rfl (by simp [filters, Join.filters, Step.next])
  · obtain ⟨state, followedStep, rfl⟩ := Except.map_ok.mp followed
    exact Step.follow_grows followedStep
  · cases followed

/-- A run adds the filters of its conditions in their order. -/
theorem Stage.run_filters {stage : Stage} {number : Nat} {script : List Instruction} {join : Join}
    (built : stage.run number script = .ok join) :
    stage.aliases.Extends join.aliases ∧ ∃ added, join.filters = stage.filters ++ added ∧
      List.Forall₂ (Compiled join.aliases) (conditions script) added := by
  induction script generalizing stage number with
  | nil =>
    cases stage with
    | draft | pending => cases built
    | step state =>
      cases built
      exact ⟨List.prefix_rfl, [], by simp [filters, Join.filters, Step.finish, Step.next], .nil⟩
  | cons instruction rest ih =>
    obtain ⟨next, followed, built⟩ := Except.bind_ok.mp built
    have grown := Stage.follow_grows (Except.mapError_ok.mp followed)
    obtain ⟨extended, added, filters, each⟩ := ih built
    obtain ⟨own, filtersOwn, eachOwn⟩ := grown.filters
    have eachKept := eachOwn.imp fun _ _ compiled => compiled.extend extended
    refine ⟨grown.aliases.trans extended, own ++ added, ?_, ?_⟩
    · rw [filters, filtersOwn, List.append_assoc]
    · have both := List.rel_append eachKept each
      cases held : instruction.condition? <;> simpa [conditions, held] using both

/-- The filters of a join are those of the conditions of its script, in their order. -/
theorem build_filters {output : Table} {script : List Instruction} {join : Join}
    (built : build output script = .ok join) :
    List.Forall₂ (Compiled join.aliases) (conditions script) join.filters := by
  obtain ⟨_, added, filters, each⟩ := Stage.run_filters built
  rw [filters]
  exact each

end Join

end TypedSql
