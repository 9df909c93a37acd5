import TypedSql.Proofs.Text.Run
import TypedSql.Sql.Chunk

namespace TypedSql.Sql

/-- A unit of a text as a database reads it. A word and an integer are what is written, the names of
identifiers and parameters are without their quotes and marks. -/
inductive Lexeme where
  | word (text : String)
  | identifier (name : String)
  | parameter (name : String)
  | integer (text : String)
  | mark (mark : Mark)
  deriving DecidableEq, Repr

namespace Mark

def read? : List Char → Option (Mark × List Char)
  | '<' :: '>' :: rest => some (notEqual, rest)
  | '<' :: '=' :: rest => some (lessOrEqual, rest)
  | '<' :: rest => some (less, rest)
  | '>' :: '=' :: rest => some (greaterOrEqual, rest)
  | '>' :: rest => some (greater, rest)
  | '!' :: '~' :: rest => some (notTilde, rest)
  | '|' :: '|' :: rest => some (concat, rest)
  | '(' :: rest => some (leftParen, rest)
  | ')' :: rest => some (rightParen, rest)
  | ',' :: rest => some (comma, rest)
  | '.' :: rest => some (dot, rest)
  | '*' :: rest => some (star, rest)
  | '=' :: rest => some (equal, rest)
  | '~' :: rest => some (tilde, rest)
  | '+' :: rest => some (plus, rest)
  | _ => none

variable {text rest : List Char} {mark : Mark}

theorem eq_append_of_read? (read : read? text = some (mark, rest)) :
    text = mark.text.toList ++ rest := by
  unfold read? at read
  split at read <;> cases read <;> rfl

end Mark

namespace Lexeme

def isNameStart (c : Char) : Bool :=
  c.isAlpha || c == '_'

def isNameChar (c : Char) : Bool :=
  c.isAlphanum || c == '_'

/-- A quoted name after its opening quote. It ends at a closing quote that stands alone, one that is
written twice is part of it. -/
def quoted? (closing : Char) : List Char → Option (List Char × List Char)
  | [] => none
  | [c] => if c = closing then some ([], []) else none
  | c :: next :: rest =>
    if c ≠ closing then (quoted? closing (next :: rest)).map fun (name, rest) => (c :: name, rest)
    else if next = closing then (quoted? closing rest).map fun (name, rest) => (c :: name, rest)
    else some ([], next :: rest)

/-- The longest run of such characters that a text begins with. -/
def run? (among : Char → Bool) (text : List Char) : Option (String × List Char) :=
  if (text.takeWhile among).isEmpty then none
  else some (String.ofList (text.takeWhile among), text.dropWhile among)

def next? (dialect : Dialect) : List Char → Option (Lexeme × List Char)
  | [] => none
  | c :: rest =>
    if c = dialect.quotes.opening then
      (quoted? dialect.quotes.closing rest).map fun (name, rest) =>
        (identifier (String.ofList name), rest)
    else if c = dialect.marker.char then
      (run? isNameChar rest).map fun (name, rest) => (parameter name, rest)
    else if c = '-' then
      (run? Char.isDigit rest).map fun (digits, rest) => (integer ("-" ++ digits), rest)
    else if c.isDigit then
      (run? Char.isDigit (c :: rest)).map fun (digits, rest) => (integer digits, rest)
    else if isNameStart c then
      (run? isNameChar (c :: rest)).map fun (text, rest) => (word text, rest)
    else
      (Mark.read? (c :: rest)).map fun (symbol, rest) => (mark symbol, rest)

variable {dialect : Dialect} {text rest : List Char} {lexeme : Lexeme}

theorem length_of_quoted? {closing : Char} {name : List Char}
    (read : quoted? closing text = some (name, rest)) : rest.length < text.length := by
  fun_induction quoted? closing text generalizing name with
  | case1 => cases read
  | case2 =>
    cases read
    simp
  | case3 => cases read
  | case4 c next tail other ih =>
    obtain ⟨⟨inner, _⟩, read, same⟩ := Option.map_eq_some_iff.mp read
    cases same
    exact Nat.lt_succ_of_lt (ih read)
  | case5 tail _ _ ih =>
    obtain ⟨⟨inner, _⟩, read, same⟩ := Option.map_eq_some_iff.mp read
    cases same
    exact Nat.lt_succ_of_lt (Nat.lt_succ_of_lt (ih read))
  | case6 =>
    cases read
    simp

theorem length_of_run? {among : Char → Bool} {run : String}
    (read : run? among text = some (run, rest)) : rest.length < text.length := by
  unfold run? at read
  split at read
  · cases read
  · rename_i filled
    cases read
    have whole := congrArg List.length (List.takeWhile_append_dropWhile (p := among) (l := text))
    have some_taken : 0 < (text.takeWhile among).length := by
      simpa [List.length_pos_iff] using filled
    rw [List.length_append] at whole
    omega

theorem length_of_mark? {mark : Mark} (read : Mark.read? text = some (mark, rest)) :
    rest.length < text.length := by
  have filled : 0 < mark.text.length := by cases mark <;> decide
  rw [Mark.eq_append_of_read? read, List.length_append, String.length_toList]
  omega

theorem length_of_next? (read : next? dialect text = some (lexeme, rest)) :
    rest.length < text.length := by
  cases text with
  | nil => cases read
  | cons c text =>
    simp only [next?] at read
    split_ifs at read <;>
      (obtain ⟨⟨_, _⟩, inside, same⟩ := Option.map_eq_some_iff.mp read; cases same)
    · exact Nat.lt_succ_of_lt (length_of_quoted? inside)
    · exact Nat.lt_succ_of_lt (length_of_run? inside)
    · exact Nat.lt_succ_of_lt (length_of_run? inside)
    · exact length_of_run? inside
    · exact length_of_run? inside
    · exact length_of_mark? inside

/-- All lexemes of a text, with any blanks between them. None if something in it is no lexeme. -/
def lex (dialect : Dialect) : List Char → Option (List Lexeme)
  | [] => some []
  | c :: text =>
    if c.isWhitespace then lex dialect text
    else
      match _read : next? dialect (c :: text) with
      | none => none
      | some (lexeme, rest) => (lex dialect rest).map (lexeme :: ·)
termination_by text => text.length
decreasing_by
  · exact Nat.lt_succ_self _
  · exact length_of_next? _read

theorem lex_nil : lex dialect [] = some [] := by
  rw [lex]

theorem lex_blank : lex dialect (' ' :: rest) = lex dialect rest := by
  rw [lex]
  rfl

theorem not_isWhitespace_of_next? {c : Char}
    (read : next? dialect (c :: text) = some (lexeme, rest)) : c.isWhitespace = false := by
  by_contra blank
  simp only [Bool.not_eq_false, Char.isWhitespace, Bool.or_eq_true, decide_eq_true_eq] at blank
  rcases blank with ((rfl | rfl) | rfl) | rfl <;> cases dialect <;> cases read

theorem lex_next (read : next? dialect text = some (lexeme, rest)) :
    lex dialect text = (lex dialect rest).map (lexeme :: ·) := by
  cases text with
  | nil => cases read
  | cons c text =>
    rw [lex, if_neg (by simp [not_isWhitespace_of_next? read])]
    split
    · rename_i stuck
      cases stuck.symm.trans read
    · rename_i other
      cases other.symm.trans read
      rfl

end Lexeme

end TypedSql.Sql
