import TypedSql.Sql.Condition
import TypedSql.Proofs.Grammar

namespace TypedSql

namespace Sql

inductive Role where
  | operand
  | argument
  | arguments

inductive Phrase : Role → Sql → Prop where
  | column (qualifier : Option Alias) (name : String) : Phrase .operand [.column qualifier name]
  | parameter (name : String) : Phrase .operand [.parameter name]
  | null : Phrase .operand [.keyword .NULL]
  | literal (text : String) : Phrase .operand [.raw text]
  | call (name : String) {inner : Sql} (arguments : Phrase .arguments inner) :
      Phrase .operand (call name inner)
  | joined {operator : Mark} {left right : Sql} (joins : operator = .concat ∨ operator = .plus)
      (first : Phrase .operand left) (second : Phrase .operand right) :
      Phrase .operand (left ++ .mark operator :: right)
  | value {inner : Sql} (operand : Phrase .operand inner) : Phrase .argument inner
  | word (text : String) : Phrase .argument [.word text]
  | part (text : String) {whole : Sql} (operand : Phrase .operand whole) :
      Phrase .argument (.word text :: .keyword .FROM :: whole)
  | typed {inner : Sql} (operand : Phrase .operand inner) (type : String) :
      Phrase .argument (inner ++ [.keyword .AS, .word type])
  | single {only : Sql} (argument : Phrase .argument only) : Phrase .arguments only
  | more {first rest : Sql} (argument : Phrase .argument first) (others : Phrase .arguments rest) :
      Phrase .arguments (first ++ .mark .comma :: rest)

/-- Whether the mark makes a condition of two operands. -/
def Mark.isRelation : Mark → Bool
  | equal | notEqual | less | greater | lessOrEqual | greaterOrEqual | tilde | notTilde => true
  | _ => false

/-- The conditions without connectives. -/
inductive Leaf : Sql → Prop where
  | relation {operator : Mark} {left right : Sql} (relates : operator.isRelation = true)
      (first : Phrase .operand left) (second : Phrase .operand right) :
      Leaf (left ++ .mark operator :: right)
  | null {left : Sql} (operand : Phrase .operand left) : Leaf (left ++ keywords [.IS, .NULL])
  | present {left : Sql} (operand : Phrase .operand left) :
      Leaf (left ++ keywords [.IS, .NOT, .NULL])
  | pattern {keyword : Keyword} {left right : Sql} (negated : Bool)
      (searches : keyword = .LIKE ∨ keyword = .REGEXP) (first : Phrase .operand left)
      (second : Phrase .operand right) : Leaf (left ++ negatable negated keyword ++ right)
  | range {left low high : Sql} (negated : Bool) (first : Phrase .operand left)
      (second : Phrase .operand low) (third : Phrase .operand high) :
      Leaf (left ++ negatable negated .BETWEEN ++ low ++ .keyword .AND :: high)
  | member {left items : Sql} (negated : Bool) (first : Phrase .operand left)
      (list : Phrase .arguments items) : Leaf (left ++ negatable negated .IN ++ parens items)
  | search {items : Sql} (list : Phrase .arguments items) : Leaf (call "REGEXP_LIKE" items)
  | searchNot {items : Sql} (list : Phrase .arguments items) :
      Leaf (.keyword .NOT :: call "REGEXP_LIKE" items)

def ofConnective : Connective → Chunk
  | .and => .keyword .AND
  | .or => .keyword .OR

/-- The conditions of the language, whose leaves are read as they are written. -/
def grammar : Predicate.Grammar Chunk Sql where
  opening := .mark .leftParen
  closing := .mark .rightParen
  connective := ofConnective
  leaf tokens part := tokens = part ∧ Leaf part

end Sql

open Sql

variable (dialect : Dialect)

theorem DatePart_phrase (part : DatePart) {date : Sql} (operand : Phrase .operand date) :
    Phrase .operand (part.sql dialect date) := by
  cases dialect with
  | sqlServer => exact .call "DATEPART" (.more (.word part.name) (.single (.value operand)))
  | sqlLite =>
    have text : Phrase .operand (call "STRFTIME" (.raw part.format :: .mark .comma :: date)) :=
      .call "STRFTIME" (.more (.value (.literal part.format)) (.single (.value operand)))
    exact .call "CAST" (.single (.typed text "INTEGER"))
  | postgres | mySql | oracle => exact .call "EXTRACT" (.single (.part part.name operand))

theorem ofFunction_phrase (function : Function) {argument : Sql}
    (operand : Phrase .operand argument) :
    Phrase .operand (ofFunction dialect function argument) := by
  have only : Phrase .arguments argument := .single (.value operand)
  cases function with
  | upper => exact .call "UPPER" only
  | lower => exact .call "LOWER" only
  | trim => exact .call "TRIM" only
  | abs => exact .call "ABS" only
  | length => exact .call _ only
  | year | month | day => exact DatePart_phrase dialect _ operand

theorem Operand.phrase (operand : Operand) : Phrase .operand (operand.sql dialect) := by
  induction operand with
  | column qualifier name type => exact .column qualifier name
  | parameter name value => exact .parameter name
  | null => exact .null
  | apply function argument ih => exact ofFunction_phrase dialect function ih
  | round places argument ih =>
    exact .call "ROUND" (.more (.value ih) (.single (.value (.literal _))))

theorem ofOperand?_phrase (operand : Option Operand) :
    Phrase .operand (ofOperand? dialect operand) := by
  cases operand with
  | none => exact .null
  | some operand => exact operand.phrase dialect

theorem Sql.join_cons_cons (separator : Token) (first second : Sql) (rest : List Sql) :
    join separator (first :: second :: rest) =
      first ++ .token separator :: join separator (second :: rest) := by
  simp [join, List.intercalate_cons_cons]

theorem commas_phrase {parts : List Sql} (filled : parts ≠ [])
    (each : ∀ part ∈ parts, Phrase .operand part) : Phrase .arguments (commas parts) := by
  obtain ⟨first, rest, rfl⟩ := List.exists_cons_of_ne_nil filled
  induction rest generalizing first with
  | nil => simpa [commas, join] using .single (.value (each first (by simp)))
  | cons second rest ih =>
    have others := ih second (by simp) fun part member =>
      each part (List.mem_cons_of_mem first member)
    rw [commas, join_cons_cons]
    exact .more (.value (each first (by simp))) others

theorem join_phrase {operator : Mark} (joins : operator = .concat ∨ operator = .plus)
    {parts : List Sql} (filled : parts ≠ []) (each : ∀ part ∈ parts, Phrase .operand part) :
    Phrase .operand (join (.mark operator) parts) := by
  obtain ⟨first, rest, rfl⟩ := List.exists_cons_of_ne_nil filled
  induction rest generalizing first with
  | nil => simpa [join] using each first (by simp)
  | cons second rest ih =>
    have others := ih second (by simp) fun part member =>
      each part (List.mem_cons_of_mem first member)
    rw [join_cons_cons]
    exact .joined joins (each first (by simp)) others

theorem pattern_phrase (kind : Test) (argument : Option Operand) :
    Phrase .operand (pattern dialect kind argument) := by
  have text := ofOperand?_phrase dialect argument
  have wildcard : ∀ missing : Bool, ∀ part ∈ (if missing = true then [] else [[.raw "'%'"]]),
      Phrase .operand part := by
    intro missing part member
    cases missing with
    | true => cases member
    | false =>
      rw [List.mem_singleton.mp member]
      exact .literal _
  unfold pattern
  dsimp only
  split
  · exact text
  · generalize parted : (if kind = .startsWith then [] else [[.raw "'%'"]]) ++
      [ofOperand? dialect argument] ++ (if kind = .endsWith then [] else [[.raw "'%'"]]) = parts
    have filled : parts ≠ [] := by simp [← parted]
    have each : ∀ part ∈ parts, Phrase .operand part := by
      intro part member
      rw [← parted, List.mem_append, List.mem_append, List.mem_singleton] at member
      rcases member with (before | rfl) | after
      · exact wildcard (kind = .startsWith) part (by simpa using before)
      · exact text
      · exact wildcard (kind = .endsWith) part (by simpa using after)
    cases dialect with
    | mySql => exact .call "CONCAT" (commas_phrase filled each)
    | sqlServer => exact join_phrase (.inr rfl) filled each
    | postgres | sqlLite | oracle => exact join_phrase (.inl rfl) filled each

/-- Whether the list of a test for membership has items. The empty list has no text. -/
def Condition.isFilled : Condition → Bool
  | .test .isIn _ items _ => !items.isEmpty
  | _ => true

theorem ofTest_leaf {kind : Test} {receiver : Operand} {arguments : List Operand} {negated : Bool}
    {part : Sql} (filled : (Condition.test kind receiver arguments negated).isFilled = true)
    (rendered : ofTest dialect kind receiver arguments negated = .ok part) : Leaf part := by
  have text := receiver.phrase dialect
  have first := ofOperand?_phrase dialect arguments[0]?
  cases kind with
  | contains | startsWith | endsWith =>
    cases rendered
    exact .pattern negated (.inl rfl) text (pattern_phrase dialect _ _)
  | between =>
    cases rendered
    exact .range negated text first (ofOperand?_phrase dialect arguments[1]?)
  | isIn =>
    cases rendered
    refine .member negated text (commas_phrase ?_ ?_)
    · simpa [Condition.isFilled] using filled
    · intro part member
      obtain ⟨operand, _, rfl⟩ := List.mem_map.mp member
      exact operand.phrase dialect
  | after | before =>
    cases rendered
    exact .relation (by cases negated <;> rfl) text first
  | matchesPattern =>
    cases dialect with
    | sqlServer | sqlLite => cases rendered
    | postgres =>
      cases rendered
      exact .relation (by cases negated <;> rfl) text first
    | mySql =>
      cases rendered
      exact .pattern negated (.inr rfl) text first
    | oracle =>
      cases rendered
      have list := Phrase.more (.value text) (.single (.value first))
      cases negated with
      | false => exact .search list
      | true => exact .searchNot list

theorem Condition.leaf {condition : Condition} {part : Sql} (filled : condition.isFilled = true)
    (rendered : condition.sql dialect = .ok part) : Leaf part := by
  unfold Condition.sql at rendered
  split at rendered
  · cases rendered
    exact .relation rfl (.literal _) (.literal _)
  · cases rendered
    exact .null (Operand.phrase dialect _)
  · cases rendered
    exact .present (Operand.phrase dialect _)
  · rename_i written left right _ _
    cases rendered
    exact .relation (by cases written <;> rfl) (left.phrase dialect) (right.phrase dialect)
  · exact ofTest_leaf dialect filled rendered

def Condition.isMatch : Condition → Bool
  | .test .matchesPattern .. => true
  | _ => false

/-- Only a search for a regular expression may have no text, in the dialects without one. -/
def Condition.isRefused (condition : Condition) : Bool :=
  (dialect = .sqlServer || dialect = .sqlLite) && condition.isMatch

theorem Condition.sql_refused {condition : Condition}
    (refused : condition.isRefused dialect = true) :
    condition.sql dialect = .error (.dialectUnsupported "Matches" dialect) := by
  simp only [isRefused, Bool.and_eq_true, Bool.or_eq_true, decide_eq_true_eq] at refused
  obtain ⟨unknown, isMatch⟩ := refused
  cases condition with
  | constant | comparison => cases isMatch
  | test kind =>
    cases kind with
    | matchesPattern => rcases unknown with rfl | rfl <;> rfl
    | _ => cases isMatch

theorem Condition.sql_accepted {condition : Condition}
    (accepted : condition.isRefused dialect = false) :
    ∃ part, condition.sql dialect = .ok part := by
  cases condition with
  | constant => exact ⟨_, rfl⟩
  | comparison written left right => cases written <;> cases right <;> exact ⟨_, rfl⟩
  | test kind =>
    cases kind with
    | matchesPattern =>
      cases dialect with
      | sqlServer | sqlLite => cases accepted
      | postgres | mySql | oracle => exact ⟨_, rfl⟩
    | _ => exact ⟨_, rfl⟩

end TypedSql
