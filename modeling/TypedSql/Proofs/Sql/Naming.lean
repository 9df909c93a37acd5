import TypedSql.Proofs.Compilation.Columns
import TypedSql.Proofs.Sql.ReadingBack

namespace TypedSql

namespace Sql

/-- Whether a chunk can stand in a condition whose columns are qualified as is allowed. Such a
chunk neither names a table nor starts a section `ON`. -/
def Chunk.IsAbout (allowed : Option Alias → Prop) : Chunk → Prop
  | token spelling => spelling ≠ .keyword .ON
  | identifier _ => False
  | column qualifier _ => allowed qualifier
  | _ => True

def IsAbout (allowed : Option Alias → Prop) (sql : Sql) : Prop :=
  ∀ chunk ∈ sql, chunk.IsAbout allowed

/-- A list with separators holds these and what its parts hold. -/
theorem mem_of_mem_join {separator : Token} {parts : List Sql} {chunk : Chunk}
    (member : chunk ∈ join separator parts) :
    chunk = .token separator ∨ ∃ part ∈ parts, chunk ∈ part := by
  cases parts with
  | nil => simp [join] at member
  | cons first rest =>
    induction rest generalizing first with
    | nil => exact .inr ⟨first, by simp, by simpa [join] using member⟩
    | cons second rest ih =>
      rw [join_cons_cons, List.mem_append, List.mem_cons] at member
      rcases member with own | same | later
      · exact .inr ⟨first, by simp, own⟩
      · exact .inl same
      · rcases ih second later with same | ⟨part, listed, inside⟩
        · exact .inl same
        · exact .inr ⟨part, List.mem_cons_of_mem first listed, inside⟩

section

variable {allowed : Option Alias → Prop} {first second inner : Sql}

@[simp]
theorem isAbout_nil : IsAbout allowed [] :=
  List.forall_mem_nil _

@[simp]
theorem isAbout_cons {chunk : Chunk} :
    IsAbout allowed (chunk :: inner) ↔ chunk.IsAbout allowed ∧ IsAbout allowed inner :=
  List.forall_mem_cons

@[simp]
theorem isAbout_append :
    IsAbout allowed (first ++ second) ↔ IsAbout allowed first ∧ IsAbout allowed second :=
  List.forall_mem_append

namespace Chunk

@[simp]
theorem isAbout_keyword {name : Keyword} : (keyword name).IsAbout allowed ↔ name ≠ .ON := by
  simp [keyword, IsAbout]

@[simp]
theorem isAbout_mark (symbol : Mark) : (mark symbol).IsAbout allowed := by
  simp [mark, IsAbout]

@[simp]
theorem isAbout_column {qualifier : Option Alias} {name : String} :
    (column qualifier name).IsAbout allowed ↔ allowed qualifier :=
  Iff.rfl

@[simp]
theorem isAbout_number (value : Int) : (number value).IsAbout allowed :=
  trivial

@[simp]
theorem isAbout_raw (content : String) : (raw content).IsAbout allowed :=
  trivial

@[simp]
theorem isAbout_word (capitals : String) : (word capitals).IsAbout allowed :=
  trivial

@[simp]
theorem isAbout_function (name : String) : (function name).IsAbout allowed :=
  trivial

@[simp]
theorem isAbout_parameter (name : String) : (parameter name).IsAbout allowed :=
  trivial

end Chunk

@[simp]
theorem isAbout_parens : IsAbout allowed (parens inner) ↔ IsAbout allowed inner := by
  simp [parens]

@[simp]
theorem isAbout_call (name : String) :
    IsAbout allowed (call name inner) ↔ IsAbout allowed inner := by
  simp [call]

theorem isAbout_join {separator : Token} {parts : List Sql} (plain : separator ≠ .keyword .ON)
    (each : ∀ part ∈ parts, IsAbout allowed part) : IsAbout allowed (join separator parts) := by
  intro chunk member
  rcases mem_of_mem_join member with rfl | ⟨part, listed, inside⟩
  · exact plain
  · exact each part listed chunk inside

theorem isAbout_commas {parts : List Sql} (each : ∀ part ∈ parts, IsAbout allowed part) :
    IsAbout allowed (commas parts) :=
  isAbout_join (by decide) each

end

end Sql

open Sql

variable (dialect : Dialect) {allowed : Option Alias → Prop}

theorem isAbout_ofFunction {function : Function} {argument : Sql}
    (about : IsAbout allowed argument) :
    IsAbout allowed (ofFunction dialect function argument) := by
  cases function with
  | upper | lower | trim | abs | length => simpa [ofFunction] using about
  | year | month | day => cases dialect <;> simpa [ofFunction, DatePart.sql] using about

theorem Operand.isAbout_sql {operand : Operand}
    (each : ∀ column ∈ operand.columns, allowed column.qualifier) :
    IsAbout allowed (operand.sql dialect) := by
  induction operand with
  | column qualifier name type => simpa [sql, columns] using each
  | parameter | null => simp [sql]
  | apply function argument ih => exact isAbout_ofFunction dialect (ih each)
  | round places argument ih => simpa [sql] using ih each

theorem isAbout_ofOperand? {operand? : Option Operand}
    (each : ∀ operand ∈ operand?, ∀ column ∈ operand.columns, allowed column.qualifier) :
    IsAbout allowed (ofOperand? dialect operand?) := by
  cases operand? with
  | none => simp [ofOperand?]
  | some operand => exact Operand.isAbout_sql dialect (each operand rfl)

theorem isAbout_pattern {kind : Test} {argument : Option Operand}
    (each : ∀ operand ∈ argument, ∀ column ∈ operand.columns, allowed column.qualifier) :
    IsAbout allowed (pattern dialect kind argument) := by
  have text := isAbout_ofOperand? dialect each
  have wildcard : IsAbout allowed [.raw "'%'"] := by simp
  have parts : ∀ part ∈ (if kind = .startsWith then [] else [[Chunk.raw "'%'"]]) ++
      [ofOperand? dialect argument] ++ (if kind = .endsWith then [] else [[Chunk.raw "'%'"]]),
      IsAbout allowed part := by
    intro part member
    simp only [List.mem_append, List.mem_singleton, List.mem_ite_nil_left] at member
    rcases member with (⟨_, rfl⟩ | rfl) | ⟨_, rfl⟩
    · exact wildcard
    · exact text
    · exact wildcard
  unfold pattern
  dsimp only
  split
  · exact text
  · cases dialect with
    | mySql => simpa using isAbout_commas parts
    | sqlServer | postgres | sqlLite | oracle => exact isAbout_join (by decide) parts

theorem isAbout_negatable {negated : Bool} {keyword : Keyword} (plain : keyword ≠ .ON) :
    IsAbout allowed (negatable negated keyword) := by
  cases negated <;> simp [negatable, plain]

theorem isAbout_ofMatch {text pattern part : Sql} {negated : Bool}
    (aboutText : IsAbout allowed text) (aboutPattern : IsAbout allowed pattern)
    (rendered : ofMatch dialect text pattern negated = .ok part) : IsAbout allowed part := by
  cases dialect with
  | sqlServer | sqlLite => cases rendered
  | postgres =>
    cases rendered
    simp [aboutText, aboutPattern]
  | mySql =>
    cases rendered
    simp [aboutText, aboutPattern, isAbout_negatable]
  | oracle =>
    cases rendered
    cases negated <;> simp [aboutText, aboutPattern]

theorem isAbout_ofTest {kind : Test} {receiver : Operand} {arguments : List Operand}
    {negated : Bool} {part : Sql}
    (eachReceiver : ∀ column ∈ receiver.columns, allowed column.qualifier)
    (each : ∀ operand ∈ arguments, ∀ column ∈ operand.columns, allowed column.qualifier)
    (rendered : ofTest dialect kind receiver arguments negated = .ok part) :
    IsAbout allowed part := by
  have about := Operand.isAbout_sql dialect eachReceiver
  have eachPlace : ∀ place : Nat, ∀ operand ∈ arguments[place]?,
      ∀ column ∈ operand.columns, allowed column.qualifier := by
    intro place operand found
    exact each operand (List.mem_of_getElem? found)
  have first := isAbout_ofOperand? dialect (eachPlace 0)
  have second := isAbout_ofOperand? dialect (eachPlace 1)
  cases kind with
  | contains | startsWith | endsWith =>
    cases rendered
    simp [about, isAbout_negatable, isAbout_pattern dialect (eachPlace 0)]
  | after | before =>
    cases rendered
    simp [about, first]
  | matchesPattern => exact isAbout_ofMatch dialect about first rendered
  | between =>
    cases rendered
    simp [about, isAbout_negatable, first, second]
  | isIn =>
    cases rendered
    have items : IsAbout allowed (commas (arguments.map (·.sql dialect))) := by
      apply isAbout_commas
      intro part member
      obtain ⟨operand, listed, rfl⟩ := List.mem_map.mp member
      exact Operand.isAbout_sql dialect (each operand listed)
    simp [about, isAbout_negatable, items]

theorem Condition.isAbout_sql {condition : Condition} {part : Sql}
    (each : ∀ column ∈ condition.columns, allowed column.qualifier)
    (rendered : condition.sql dialect = .ok part) : IsAbout allowed part := by
  unfold Condition.sql at rendered
  split at rendered
  · cases rendered
    simp
  · cases rendered
    have left := Operand.isAbout_sql dialect fun column member =>
      each column (List.mem_append_left _ member)
    simp [keywords, left]
  · cases rendered
    have left := Operand.isAbout_sql dialect fun column member =>
      each column (List.mem_append_left _ member)
    simp [keywords, left]
  · cases rendered
    have left := Operand.isAbout_sql dialect fun column member =>
      each column (List.mem_append_left _ member)
    have right := Operand.isAbout_sql dialect fun column member =>
      each column (List.mem_append_right _ member)
    simp [left, right]
  · refine isAbout_ofTest dialect (fun column member => ?_) (fun operand listed column member => ?_)
      rendered
    · exact each column (List.mem_append_left _ member)
    · exact each column (List.mem_append_right _ (List.mem_flatMap.mpr ⟨operand, listed, member⟩))

namespace Predicate

theorem Node.isAbout_tokens {node : Node} {spell : Condition → Sql}
    (each : ∀ condition, node.condition? = some condition → IsAbout allowed (spell condition)) :
    IsAbout allowed (node.tokens grammar.toMarks spell) := by
  obtain ⟨content, parent, opening, closing, position⟩ := node
  have marks : ∀ (count : Nat) (symbol : Mark),
      IsAbout allowed (List.replicate count (.mark symbol)) := by
    intro count symbol chunk member
    rw [List.eq_of_mem_replicate member]
    simp
  cases content with
  | condition condition => simp [Node.tokens, grammar, marks, each condition rfl]
  | connective connective => cases connective <;> simp [Node.tokens, grammar, ofConnective, marks]

theorem isAbout_sql {predicate : Predicate} {sql : Sql}
    (each : ∀ column ∈ predicate.columns, allowed column.qualifier)
    (written : predicate.sql dialect = .ok sql) : IsAbout allowed sql := by
  have accepted := predicate.accepted_of_sql dialect written
  rw [predicate.sql_of_accepted dialect accepted] at written
  cases written
  intro chunk member
  obtain ⟨node, listed, inside⟩ := List.mem_flatMap.mp member
  refine Node.isAbout_tokens (fun condition held => ?_) chunk inside
  have own : condition ∈ predicate.conditions := List.mem_filterMap.mpr ⟨node, listed, held⟩
  obtain ⟨part, rendered⟩ := condition.sql_accepted dialect (accepted condition own)
  rw [Condition.spell, rendered]
  refine condition.isAbout_sql dialect (fun column named => ?_) rendered
  exact each column (List.mem_flatMap.mpr ⟨condition, own, named⟩)

end Predicate

end TypedSql
