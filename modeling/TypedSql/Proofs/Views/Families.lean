import Mathlib.Data.Finset.Card
import TypedSql.Proofs.Views.Execution

namespace TypedSql

abbrev ViewMap :=
  Table → Option View

namespace Operation

variable {τ : Type}

/-- The operation may change what is stored for the output type. -/
def Changes : Operation τ → Table → Prop
  | .storeJoin join, output => output = join.output
  | .storeProcedure stored _, output | .remove stored, output => output = stored
  | .contains _, _ | .definition _, _ | .count, _ | .isEmpty, _ | .render _, _
  | .execute _ _ _, _ => False

/-- The answer may depend on what is stored for the output type. -/
def Concerns : Operation τ → Table → Prop
  | .storeJoin join, output => output = join.output
  | .count, _ | .isEmpty, _ => True
  | .storeProcedure asked _, output | .remove asked, output | .contains asked, output
  | .definition asked, output | .render asked, output | .execute asked _ _, output =>
    output = asked

end Operation

namespace ViewMap

variable {τ : Type} {dialect : Dialect} {map map' next next' : ViewMap}
  {operation : Operation τ} {answer answer' : Answer τ}

/-- How a map answers a handle of the dialect, and the map after it. -/
inductive Answers (dialect : Dialect) (map : ViewMap) :
    Operation τ → Answer τ → ViewMap → Prop where
  | storeJoin (join : Join) :
    Answers dialect map (.storeJoin join) (.view (map join.output))
      (Function.update map join.output (some (.join join)))
  | storeProcedure (output : Table) (procedure : Procedure) :
    Answers dialect map (.storeProcedure output procedure) (.view (map output))
      (Function.update map output (some (.procedure procedure)))
  | remove (output : Table) :
    Answers dialect map (.remove output) (.view (map output)) (Function.update map output none)
  | contains (output : Table) :
    Answers dialect map (.contains output) (.flag (map output).isSome) map
  | definition (output : Table) :
    Answers dialect map (.definition output) (.view (map output)) map
  | count (types : Finset Table) (stored : ∀ output, output ∈ types ↔ map output ≠ none) :
    Answers dialect map .count (.count types.card) map
  | isEmpty (empty : Bool) (unstored : empty = true ↔ ∀ output, map output = none) :
    Answers dialect map .isEmpty (.flag empty) map
  | render {output : Table} {view : View} (found : map output = some view) :
    Answers dialect map (.render output) (.rendered (view.render dialect)) map
  | renderMissing {output : Table} (missing : map output = none) :
    Answers dialect map (.render output) (.rendered (.error (.viewNotFound output.name))) map
  | execute {output : Table} {connection : Connection τ} {transaction : Option τ}
    {sent : List (Request τ)} {result : Except Error (List Row)}
    (execution : Execution dialect (map output) output connection transaction sent result) :
    Answers dialect map (.execute output connection transaction) (.executed sent result) map

namespace Answers

theorem elsewhere (answers : Answers dialect map operation answer next) {output : Table}
    (kept : ¬ operation.Changes output) : next output = map output := by
  cases answers with
  | storeJoin | storeProcedure | remove => exact Function.update_of_ne kept _ _
  | contains | definition | count | isEmpty | render | renderMissing | execute => rfl

theorem agree (first : Answers dialect map operation answer next)
    (second : Answers dialect map' operation answer' next')
    (same : ∀ output, operation.Concerns output → map output = map' output) :
    answer = answer' := by
  cases first with
  | storeJoin | storeProcedure | remove | contains | definition =>
    cases second
    rw [same _ rfl]
  | count types stored =>
    cases second with
    | count types' stored' =>
      have : types = types' := by
        ext output
        rw [stored, stored', same output trivial]
      rw [this]
  | isEmpty empty unstored =>
    cases second with
    | isEmpty empty' unstored' =>
      have : empty = true ↔ empty' = true := by
        rw [unstored, unstored']
        exact forall_congr' fun output => by rw [same output trivial]
      rw [Bool.eq_iff_iff.mpr this]
  | render found =>
    cases second with
    | render found' =>
      cases found.symm.trans ((same _ rfl).trans found')
      rfl
    | renderMissing missing => cases found.symm.trans ((same _ rfl).trans missing)
  | renderMissing missing =>
    cases second with
    | render found => cases found.symm.trans ((same _ rfl).symm.trans missing)
    | renderMissing => rfl
  | execute execution =>
    cases second with
    | execute execution' =>
      rw [same _ rfl] at execution
      obtain ⟨rfl, rfl⟩ := execution.unique execution'
      rfl

end Answers

end ViewMap

structure Member where
  dialect : Dialect
  family : Nat

/-- Handles in families, with one map for each family. What number a family goes by is of no
account. -/
structure Families where
  members : List Member
  maps : Nat → ViewMap

namespace Families

variable {τ : Type} {families next : Families} {command change query : Command τ}
  {answer told told' : Answer τ}

def start : Families :=
  ⟨[], fun _ _ => none⟩

def found (families : Families) (dialect : Dialect) (family : Nat) : Families :=
  ⟨families.members ++ [⟨dialect, family⟩], Function.update families.maps family fun _ => none⟩

inductive Step : Families → Command τ → Answer τ → Families → Prop where
  | create {families : Families} {family : Nat} (dialect : Dialect)
    (fresh : ∀ member ∈ families.members, member.family ≠ family) :
    Step families (.create dialect) (.opened dialect) (families.found dialect family)
  | configure {families : Families} {family : Nat} (settings : Settings)
    (fresh : ∀ member ∈ families.members, member.family ≠ family) :
    Step families (.configure settings) (.opened settings.dialect)
      (families.found settings.dialect family)
  | clone {families : Families} {number : Nat} {member : Member}
    (opened : families.members[number]? = some member) :
    Step families (.clone number) (.opened member.dialect)
      { families with members := families.members ++ [member] }
  | use {families : Families} {number : Nat} {member : Member} {operation : Operation τ}
    {answer : Answer τ} {map : ViewMap} (opened : families.members[number]? = some member)
    (answers : (families.maps member.family).Answers member.dialect operation answer map) :
    Step families (.use number operation) answer
      { families with maps := Function.update families.maps member.family map }

inductive Runs : Families → List (Command τ) → List (Answer τ) → Families → Prop where
  | nil (families : Families) : Runs families [] [] families
  | cons {families next last : Families} {command : Command τ} {answer : Answer τ}
    {commands : List (Command τ)} {answers : List (Answer τ)}
    (step : Step families command answer next) (rest : Runs next commands answers last) :
    Runs families (command :: commands) (answer :: answers) last

/-- The commands go to handles of different families, or what the one may change does not concern
the other. -/
def Apart (families : Families) (change query : Command τ) : Prop :=
  ∀ {number number' : Nat} {operation operation' : Operation τ} {member member' : Member},
    change = .use number operation → query = .use number' operation' →
    families.members[number]? = some member → families.members[number']? = some member' →
    member.family = member'.family → ∀ output, operation.Changes output →
      ¬ operation'.Concerns output

theorem Step.members (step : Step families command answer next) :
    ∃ added, next.members = families.members ++ added := by
  cases step with
  | create | configure | clone => exact ⟨_, rfl⟩
  | use => exact ⟨[], (List.append_nil _).symm⟩

theorem Step.member (step : Step families command answer next) {number : Nat} {member : Member}
    (opened : families.members[number]? = some member) :
    next.members[number]? = some member := by
  obtain ⟨added, members⟩ := step.members
  rw [members, List.getElem?_append_left (List.getElem?_eq_some_iff.mp opened).1, opened]

theorem Step.maps (step : Step families change answer next) {number : Nat} {member : Member}
    {operation : Operation τ} (opened : families.members[number]? = some member)
    (apart : families.Apart change (.use number operation)) {output : Table}
    (concerns : operation.Concerns output) :
    next.maps member.family output = families.maps member.family output := by
  cases step with
  | create dialect fresh | configure settings fresh =>
    have other := fresh member (List.mem_of_getElem? opened)
    exact congrFun (Function.update_of_ne other _ _) output
  | clone => rfl
  | @use _ other _ _ _ opened' answers =>
    dsimp only
    by_cases same : member.family = other.family
    · rw [same, Function.update_self]
      exact answers.elsewhere fun changes =>
        apart rfl rfl opened' opened same.symm output changes concerns
    · rw [Function.update_of_ne same]

theorem Step.answers_apart (step : Step families change answer next)
    (apart : families.Apart change query) {after after' : Families}
    (before : Step families query told after) (later : Step next query told' after') :
    told' = told := by
  cases before with
  | create | configure =>
    cases later
    rfl
  | clone opened =>
    cases later with
    | clone opened' =>
      cases (step.member opened).symm.trans opened'
      rfl
  | use opened answers =>
    cases later with
    | use opened' answers' =>
      cases (step.member opened).symm.trans opened'
      exact answers'.agree answers fun output => step.maps opened apart

end Families

end TypedSql
