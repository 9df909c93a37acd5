import TypedSql.Proofs.Sql.ReadingBack

namespace TypedSql

namespace Sql

namespace Chunk

def placeholder? : Chunk → Option String
  | parameter name => some name
  | _ => none

@[simp]
theorem placeholder?_parameter (name : String) : (parameter name).placeholder? = some name :=
  rfl

@[simp]
theorem placeholder?_of_ne {chunk : Chunk} (other : ∀ name, chunk ≠ parameter name) :
    chunk.placeholder? = none := by
  cases chunk with
  | parameter name => exact (other name rfl).elim
  | _ => rfl

@[simp]
theorem placeholder?_keyword (name : Keyword) : (keyword name).placeholder? = none :=
  rfl

@[simp]
theorem placeholder?_mark (symbol : Mark) : (mark symbol).placeholder? = none :=
  rfl

@[simp]
theorem placeholder?_number (value : Int) : (number value).placeholder? = none :=
  rfl

end Chunk

/-- The names of the parameters from left to right. -/
def placeholders (sql : Sql) : List String :=
  sql.filterMap Chunk.placeholder?

@[simp]
theorem placeholders_nil : placeholders [] = [] :=
  rfl

@[simp]
theorem placeholders_append (first second : Sql) :
    placeholders (first ++ second) = placeholders first ++ placeholders second :=
  List.filterMap_append

@[simp]
theorem placeholders_cons (chunk : Chunk) (rest : Sql) :
    placeholders (chunk :: rest) = chunk.placeholder?.toList ++ placeholders rest := by
  unfold placeholders
  cases named : chunk.placeholder? <;> simp [named]

@[simp]
theorem placeholders_keywords (words : List Keyword) : placeholders (keywords words) = [] := by
  induction words with
  | nil => rfl
  | cons first rest ih => simpa [keywords] using ih

@[simp]
theorem placeholders_parens (inner : Sql) : placeholders (parens inner) = placeholders inner := by
  simp [parens]

@[simp]
theorem placeholders_call (name : String) (inner : Sql) :
    placeholders (call name inner) = placeholders inner := by
  simp [call]

@[simp]
theorem placeholders_join (separator : Token) (parts : List Sql) :
    placeholders (join separator parts) = parts.flatMap placeholders := by
  cases parts with
  | nil => rfl
  | cons first rest =>
    induction rest generalizing first with
    | nil => simp [join]
    | cons second rest ih =>
      rw [join_cons_cons, placeholders_append, placeholders_cons, ih]
      rfl

@[simp]
theorem placeholders_commas (parts : List Sql) :
    placeholders (commas parts) = parts.flatMap placeholders :=
  placeholders_join (.mark .comma) parts

@[simp]
theorem placeholders_replicate_mark (count : Nat) (symbol : Mark) :
    placeholders (List.replicate count (.mark symbol)) = [] := by
  induction count with
  | zero => rfl
  | succ count ih => simpa [List.replicate_succ] using ih

@[simp]
theorem placeholders_negatable (negated : Bool) (keyword : Keyword) :
    placeholders (negatable negated keyword) = [] := by
  cases negated <;> simp [negatable]

end Sql

open Sql

variable (dialect : Dialect)

@[simp]
theorem placeholders_ofFunction (function : Function) (argument : Sql) :
    placeholders (ofFunction dialect function argument) = placeholders argument := by
  cases function with
  | upper | lower | trim | abs | length => simp [ofFunction]
  | year | month | day => cases dialect <;> simp [ofFunction, DatePart.sql]

@[simp]
theorem Operand.placeholders_sql (operand : Operand) :
    placeholders (operand.sql dialect) = operand.parameters.map Parameter.name := by
  induction operand with
  | column | parameter | null => simp [sql, parameters]
  | apply function argument ih => simpa [sql, parameters] using ih
  | round places argument ih => simpa [sql, parameters] using ih

@[simp]
theorem placeholders_pattern (kind : Test) (argument : Option Operand) :
    placeholders (pattern dialect kind argument) = placeholders (ofOperand? dialect argument) := by
  unfold pattern
  dsimp only
  split
  · rfl
  · cases dialect <;> cases kind <;> simp

/-- Whether a test has as many arguments as it takes. A test for membership takes any number of
items. -/
def Condition.isSaturated : Condition → Bool
  | .test .isIn .. => true
  | .test kind _ arguments _ => arguments.length = kind.arity
  | _ => true

theorem placeholders_ofMatch {text pattern part : Sql} {negated : Bool}
    (rendered : ofMatch dialect text pattern negated = .ok part) :
    placeholders part = placeholders text ++ placeholders pattern := by
  cases dialect with
  | sqlServer | sqlLite => cases rendered
  | postgres | mySql =>
    cases rendered
    simp
  | oracle =>
    cases rendered
    cases negated <;> simp

theorem placeholders_ofTest {kind : Test} {receiver : Operand} {arguments : List Operand}
    {negated : Bool} {part : Sql}
    (saturated : (Condition.test kind receiver arguments negated).isSaturated = true)
    (rendered : ofTest dialect kind receiver arguments negated = .ok part) :
    placeholders part =
      (Condition.test kind receiver arguments negated).parameters.map Parameter.name := by
  have single : kind ≠ .isIn → kind ≠ .between → ∃ argument, arguments = [argument] := by
    intro noList noRange
    apply List.length_eq_one_iff.mp
    cases kind with
    | isIn => exact (noList rfl).elim
    | between => exact (noRange rfl).elim
    | _ => exact of_decide_eq_true saturated
  cases kind with
  | contains | startsWith | endsWith | after | before =>
    obtain ⟨argument, rfl⟩ := single (by decide) (by decide)
    cases rendered
    simp [Condition.parameters, ofOperand?]
  | matchesPattern =>
    obtain ⟨argument, rfl⟩ := single (by decide) (by decide)
    rw [placeholders_ofMatch dialect rendered]
    simp [Condition.parameters, ofOperand?]
  | between =>
    obtain ⟨low, high, rfl⟩ := List.length_eq_two.mp (of_decide_eq_true saturated)
    cases rendered
    simp [Condition.parameters, ofOperand?]
  | isIn =>
    cases rendered
    simp [Condition.parameters, List.flatMap_map, List.map_flatMap]

/-- The placeholders of a condition stand for its parameters, in their order. -/
theorem Condition.placeholders_sql {condition : Condition} {part : Sql}
    (saturated : condition.isSaturated = true) (rendered : condition.sql dialect = .ok part) :
    placeholders part = condition.parameters.map Parameter.name := by
  unfold Condition.sql at rendered
  split at rendered
  · cases rendered
    simp [parameters]
  · cases rendered
    simp [parameters, Operand.parameters]
  · cases rendered
    simp [parameters, Operand.parameters]
  · cases rendered
    simp [parameters]
  · exact placeholders_ofTest dialect saturated rendered

/-- A compiled test has as many arguments as it takes. -/
theorem ConditionIn.isSaturated {scope : Scope} {expr : Expr} {negated : Bool}
    {condition : Condition} (compiled : ConditionIn scope expr negated condition) :
    condition.isSaturated = true := by
  cases compiled with
  | constant | column | isInNothing => rfl
  | compare _ compared | mirrored _ _ compared => cases compared <;> rfl
  | isIn => rfl
  | @test kind receiver arguments operand operands reference negated other arity _ _ each =>
    rw [each.length_eq] at arity
    cases kind with
    | isIn => exact (other rfl).elim
    | _ => exact decide_eq_true arity

namespace Predicate

def parameters (predicate : Predicate) : List Parameter :=
  predicate.conditions.flatMap Condition.parameters

/-- Parentheses and connectives hold no placeholders. -/
theorem Node.placeholders_tokens (node : Node) (spell : Condition → Sql) :
    placeholders (node.tokens grammar.toMarks spell) =
      node.condition?.toList.flatMap fun condition => placeholders (spell condition) := by
  obtain ⟨content, parent, opening, closing, position⟩ := node
  cases content with
  | condition condition => simp [Node.tokens, Node.condition?, grammar]
  | connective connective =>
    cases connective <;> simp [Node.tokens, Node.condition?, grammar, ofConnective]

theorem placeholders_nodes {nodes : List Node}
    (each : ∀ condition ∈ nodes.filterMap Node.condition?,
      placeholders (condition.spell dialect) = condition.parameters.map Parameter.name) :
    placeholders (nodes.flatMap (Node.tokens grammar.toMarks (Condition.spell dialect))) =
      ((nodes.filterMap Node.condition?).flatMap Condition.parameters).map Parameter.name := by
  induction nodes with
  | nil => rfl
  | cons first rest ih =>
    rw [List.flatMap_cons, placeholders_append, first.placeholders_tokens]
    cases held : first.condition? with
    | none =>
      rw [List.filterMap_cons_none held] at each ⊢
      exact ih each
    | some condition =>
      rw [List.filterMap_cons_some held] at each ⊢
      rw [ih fun other member => each other (List.mem_cons_of_mem condition member)]
      simp [each condition (by simp)]

/-- The placeholders of a predicate stand for its parameters, in their order. -/
theorem placeholders_sql {predicate : Predicate} {sql : Sql}
    (saturated : ∀ condition ∈ predicate.conditions, condition.isSaturated = true)
    (written : predicate.sql dialect = .ok sql) :
    placeholders sql = predicate.parameters.map Parameter.name := by
  have accepted := predicate.accepted_of_sql dialect written
  rw [predicate.sql_of_accepted dialect accepted] at written
  cases written
  refine placeholders_nodes dialect fun condition member => ?_
  obtain ⟨part, rendered⟩ := condition.sql_accepted dialect (accepted condition member)
  rw [Condition.spell, rendered]
  exact condition.placeholders_sql dialect (saturated condition member) rendered

end Predicate

end TypedSql
