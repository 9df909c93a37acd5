import TypedSql.Proofs.Sql.ReadingBack

namespace TypedSql

namespace Sql

namespace Chunk

def keyword? : Chunk → Option Keyword
  | token (.keyword name) => some name
  | _ => none

@[simp]
theorem keyword?_keyword (name : Keyword) : (keyword name).keyword? = some name :=
  rfl

@[simp]
theorem keyword?_mark (symbol : Mark) : (mark symbol).keyword? = none :=
  rfl

@[simp]
theorem keyword?_number (value : Int) : (number value).keyword? = none :=
  rfl

@[simp]
theorem keyword?_of_ne {chunk : Chunk} (other : ∀ spelling, chunk ≠ token spelling) :
    chunk.keyword? = none := by
  cases chunk with
  | token spelling => exact (other spelling rfl).elim
  | _ => rfl

theorem eq_of_keyword? {chunk : Chunk} {name : Keyword} (held : chunk.keyword? = some name) :
    chunk = keyword name := by
  unfold keyword? at held
  split at held <;> cases held
  rfl

end Chunk

/-- The keywords from left to right. -/
def words (sql : Sql) : List Keyword :=
  sql.filterMap Chunk.keyword?

section

variable {first rest : Sql} {chunk : Chunk} {name : Keyword}

theorem mem_words : name ∈ words first ↔ Chunk.keyword name ∈ first := by
  constructor
  · intro member
    obtain ⟨chunk, listed, held⟩ := List.mem_filterMap.mp member
    rwa [← Chunk.eq_of_keyword? held]
  · exact fun member => List.mem_filterMap.mpr ⟨_, member, rfl⟩

@[simp]
theorem words_nil : words [] = [] :=
  rfl

@[simp]
theorem words_cons : words (chunk :: rest) = chunk.keyword?.toList ++ words rest := by
  unfold words
  cases held : chunk.keyword? <;> simp [held]

@[simp]
theorem words_append : words (first ++ rest) = words first ++ words rest :=
  List.filterMap_append

@[simp]
theorem words_keywords (names : List Keyword) : words (keywords names) = names := by
  induction names with
  | nil => rfl
  | cons name names ih => simpa [keywords] using ih

@[simp]
theorem words_parens : words (parens first) = words first := by
  simp [parens]

@[simp]
theorem words_call (name : String) : words (call name first) = words first := by
  simp [call]

theorem words_commas (parts : List Sql) : words (commas parts) = parts.flatMap words := by
  cases parts with
  | nil => rfl
  | cons first rest =>
    induction rest generalizing first with
    | nil => simp [commas, join]
    | cons second rest ih =>
      have later := ih second
      rw [commas] at later
      rw [commas, join_cons_cons, words_append, words_cons, later]
      rfl

end

open Predicate (Level)

/-- Whether conditions are written with the keyword. -/
def Keyword.isConditional : Keyword → Bool
  | FROM | AND | OR | NOT | IN | IS | NULL | LIKE | BETWEEN | REGEXP | AS => true
  | _ => false

/-- Whether all keywords are those of conditions. -/
def isConditional (sql : Sql) : Bool :=
  (words sql).all Keyword.isConditional

theorem not_mem_of_isConditional {sql : Sql} (conditional : isConditional sql = true)
    {name : Keyword} (other : name.isConditional = false) : Chunk.keyword name ∉ sql := by
  intro member
  have held := List.all_eq_true.mp conditional name (mem_words.mpr member)
  exact Bool.false_ne_true (other.symm.trans held)

section

variable {sql rest : Sql}

@[simp]
theorem isConditional_nil : isConditional [] = true :=
  rfl

@[simp]
theorem isConditional_cons (chunk : Chunk) :
    isConditional (chunk :: sql) =
      (chunk.keyword?.all Keyword.isConditional && isConditional sql) := by
  unfold isConditional
  rw [words_cons, List.all_append]
  cases chunk.keyword? <;> simp

@[simp]
theorem isConditional_append :
    isConditional (sql ++ rest) = (isConditional sql && isConditional rest) := by
  rw [isConditional, words_append, List.all_append]
  rfl

@[simp]
theorem isConditional_parens : isConditional (parens sql) = isConditional sql := by
  rw [isConditional, words_parens]
  rfl

@[simp]
theorem isConditional_call (name : String) : isConditional (call name sql) = isConditional sql := by
  rw [isConditional, words_call]
  rfl

@[simp]
theorem isConditional_negatable (negated : Bool) (name : Keyword) :
    isConditional (negatable negated name) = name.isConditional := by
  cases negated <;> cases name <;> rfl

theorem Phrase.isConditional {role : Role} (phrase : Phrase role sql) :
    isConditional sql = true := by
  induction phrase with
  | column | parameter | literal | word => simp
  | null => simp [Keyword.isConditional]
  | call name _ ih => simp [ih]
  | joined _ _ _ first second | more _ _ first second => simp [first, second]
  | value _ ih | single _ ih => exact ih
  | part text _ ih | typed _ text ih => simp [ih, Keyword.isConditional]

theorem Leaf.isConditional (leaf : Leaf sql) : Sql.isConditional sql = true := by
  cases leaf with
  | relation _ first second => simp [first.isConditional, second.isConditional]
  | null operand | present operand =>
    simp [keywords, operand.isConditional, Keyword.isConditional]
  | pattern negated searches first second =>
    rcases searches with rfl | rfl <;>
      simp [first.isConditional, second.isConditional, Keyword.isConditional]
  | range negated first second third =>
    simp [first.isConditional, second.isConditional, third.isConditional, Keyword.isConditional]
  | member negated first list =>
    simp [first.isConditional, list.isConditional, Keyword.isConditional]
  | search list | searchNot list => simp [list.isConditional, Keyword.isConditional]

theorem isConditional_connective (connective : Connective) :
    isConditional [grammar.connective connective] = true := by
  cases connective <;> rfl

theorem isConditional_of_derives {level : Level} {tree : Predicate.Tree Sql}
    (derived : grammar.Derives level sql tree) : isConditional sql = true := by
  induction derived with
  | leaf phrase =>
    obtain ⟨rfl, leaf⟩ := phrase
    exact leaf.isConditional
  | group _ inner => exact isConditional_parens.trans inner
  | single _ only => exact only
  | @more connective _ _ _ _ _ _ first last =>
    rw [List.append_cons, isConditional_append, isConditional_append, first, last,
      isConditional_connective]
    rfl

end

end Sql

open Predicate (Node Tree)

variable {dialect : Dialect} {predicate : Predicate} {sql : Sql}

theorem Sql.isConditional_replicate_mark (count : Nat) (symbol : Mark) :
    isConditional (List.replicate count (.mark symbol)) = true := by
  induction count with
  | zero => rfl
  | succ count ih => simpa [List.replicate_succ] using ih

theorem Predicate.Node.isConditional_tokens {node : Node} {spell : Condition → Sql}
    (each : ∀ condition, node.condition? = some condition → (spell condition).isConditional) :
    Sql.isConditional (node.tokens Sql.grammar.toMarks spell) = true := by
  obtain ⟨content, parent, opening, closing, position⟩ := node
  have opened := Sql.isConditional_replicate_mark opening.toNat .leftParen
  have closed := Sql.isConditional_replicate_mark closing.toNat .rightParen
  have parted : ∀ part : Sql, part.isConditional →
      Sql.isConditional (List.replicate opening.toNat (.mark .leftParen) ++ part ++
        List.replicate closing.toNat (.mark .rightParen)) = true := by
    intro part own
    rw [Sql.isConditional_append, Sql.isConditional_append, opened, own, closed]
    rfl
  cases content with
  | condition condition => exact parted _ (each condition rfl)
  | connective connective => exact parted _ (Sql.isConditional_connective connective)

theorem Predicate.isConditional_sql
    (filled : ∀ condition ∈ predicate.conditions, condition.isFilled = true)
    (written : predicate.sql dialect = .ok sql) : sql.isConditional = true := by
  have accepted := predicate.accepted_of_sql dialect written
  rw [predicate.sql_of_accepted dialect accepted] at written
  cases written
  rw [Sql.isConditional, List.all_eq_true]
  intro name held
  obtain ⟨node, listed, inside⟩ := List.mem_flatMap.mp (Sql.mem_words.mp held)
  have spelled : ∀ condition, node.condition? = some condition →
      (condition.spell dialect).isConditional := by
    intro condition held
    have member : condition ∈ predicate.conditions := List.mem_filterMap.mpr ⟨node, listed, held⟩
    obtain ⟨part, rendered⟩ := condition.sql_accepted dialect (accepted condition member)
    rw [Condition.Renders.spell dialect rendered]
    exact (condition.leaf dialect (filled condition member) rendered).isConditional
  exact List.all_eq_true.mp (Node.isConditional_tokens spelled) name (Sql.mem_words.mpr inside)

/-- However its parentheses are counted, what is written of an expression has the keywords of
conditions only. -/
theorem Expr.compile_isConditional {expr : Expr} {scope : Scope} {before after : Parameters}
    (compiled : expr.compile scope before = (.ok predicate, after))
    (written : predicate.sql dialect = .ok sql) : sql.isConditional = true := by
  refine Predicate.isConditional_sql (fun condition member => ?_) written
  obtain ⟨tree, rfl, related, _⟩ := Expr.compile_ok compiled
  rw [Predicate.conditions_nodes] at member
  obtain ⟨clause, _, compiledClause⟩ := related.exists_left member
  exact ConditionIn.isFilled compiledClause

end TypedSql
