import TypedSql.Proofs.Sql.Lexeme
import TypedSql.Proofs.Aliases

namespace TypedSql.Sql

open Text (Ends)

namespace Lexeme

def isWord : List Char → Bool
  | [] => false
  | c :: rest => isNameStart c && rest.all isNameChar

def isName (text : List Char) : Bool :=
  !text.isEmpty && text.all isNameChar

def isDigits (text : List Char) : Bool :=
  !text.isEmpty && text.all Char.isDigit

def isInteger : List Char → Bool
  | '-' :: digits => isDigits digits
  | digits => isDigits digits

/-- A character after which no lexeme goes on. -/
def isBoundary (c : Char) : Bool :=
  c == ' ' || c == '(' || c == ')' || c == ','

/-- What follows is no part of the lexeme before it. -/
def IsCut (rest : List Char) : Prop :=
  ∀ c, rest.head? = some c → isBoundary c

variable {dialect : Dialect} {text rest : List Char}

theorem IsCut.ends {among : Char → Bool} (cut : IsCut rest)
    (outside : ∀ c, isBoundary c → among c = false) : Ends among rest :=
  fun c first => outside c (cut c first)

theorem eq_of_isBoundary {c : Char} (boundary : isBoundary c) :
    c = ' ' ∨ c = '(' ∨ c = ')' ∨ c = ',' := by
  simpa [isBoundary, or_assoc] using boundary

theorem not_isNameChar_of_isBoundary (c : Char) (boundary : isBoundary c) :
    isNameChar c = false := by
  rcases eq_of_isBoundary boundary with rfl | rfl | rfl | rfl <;> decide

theorem not_isDigit_of_isBoundary (c : Char) (boundary : isBoundary c) : c.isDigit = false := by
  rcases eq_of_isBoundary boundary with rfl | rfl | rfl | rfl <;> decide

theorem ne_closing_of_isBoundary (c : Char) (boundary : isBoundary c) :
    c ≠ dialect.quotes.closing := by
  rcases eq_of_isBoundary boundary with rfl | rfl | rfl | rfl <;> cases dialect <;> decide

theorem isNameChar_of_isNameStart {c : Char} (start : isNameStart c) : isNameChar c := by
  simp only [isNameStart, isNameChar, Char.isAlphanum, Bool.or_eq_true] at start ⊢
  tauto

theorem isNameChar_of_isDigit {c : Char} (digit : c.isDigit) : isNameChar c := by
  simp [isNameChar, Char.isAlphanum, digit]

theorem isUpper_iff {c : Char} : c.isUpper ↔ 65 ≤ c.val.toNat ∧ c.val.toNat ≤ 90 :=
  decide_eq_true_iff

theorem isLower_iff {c : Char} : c.isLower ↔ 97 ≤ c.val.toNat ∧ c.val.toNat ≤ 122 :=
  Bool.and_eq_true_iff.trans (and_congr decide_eq_true_iff decide_eq_true_iff)

theorem not_isDigit_of_isNameStart {c : Char} (start : isNameStart c) : c.isDigit = false := by
  rcases Bool.or_eq_true_iff.mp start with letter | underscore
  · have letter := (Bool.or_eq_true_iff.mp letter).imp isUpper_iff.mp isLower_iff.mp
    simp only [Char.isDigit, Bool.and_eq_false_iff, decide_eq_false_iff_not, ge_iff_le,
      UInt32.le_iff_toNat_le]
    have nine : '9'.val.toNat = 57 := rfl
    omega
  · rw [eq_of_beq underscore]
    rfl

/-- No word and no number begins like a quoted name, a parameter or a signed number. -/
theorem ne_of_isNameChar {c : Char} (inside : isNameChar c) (dialect : Dialect) :
    c ≠ dialect.quotes.opening ∧ c ≠ dialect.marker.char ∧ c ≠ '-' := by
  refine ⟨?_, ?_, ?_⟩ <;> rintro rfl
  · revert inside
    cases dialect <;> decide
  · revert inside
    cases dialect <;> decide
  · revert inside
    decide

theorem run?_append {among : Char → Bool} {run : List Char} (filled : run ≠ [])
    (inside : ∀ c ∈ run, among c) (ends : Ends among rest) :
    run? among (run ++ rest) = some (String.ofList run, rest) := by
  rw [run?, Text.takeWhile_run inside ends, Text.dropWhile_run inside ends]
  simp [filled]

theorem quoted?_other {closing c : Char} (other : c ≠ closing) :
    quoted? closing (c :: rest) =
      (quoted? closing rest).map fun (name, rest) => (c :: name, rest) := by
  cases rest with
  | nil => simp [quoted?, other]
  | cons next rest => simp [quoted?, other]

/-- Quoting is undone by reading, whatever stands in the name. -/
theorem quoted?_append {closing : Char} (name : List Char)
    (alone : ∀ c, rest.head? = some c → c ≠ closing) :
    quoted? closing (name.flatMap (fun c => if c = closing then [closing, c] else [c]) ++
      closing :: rest) = some (name, rest) := by
  induction name with
  | nil =>
    cases rest with
    | nil => simp [quoted?]
    | cons next rest => simp [quoted?, alone next rfl]
  | cons c name ih =>
    by_cases same : c = closing
    · subst same
      simp [quoted?, ih]
    · rw [List.flatMap_cons, if_neg same, List.singleton_append, List.cons_append,
        quoted?_other same, ih]
      rfl

variable {letterCase : LetterCase}

theorem next?_identifier (name : String) (cut : IsCut rest) :
    next? dialect ((dialect.quote name).toList ++ rest) = some (identifier name, rest) := by
  have alone : ∀ c, rest.head? = some c → c ≠ dialect.quotes.closing :=
    fun c first => ne_closing_of_isBoundary c (cut c first)
  have spelled : (dialect.quote name).toList ++ rest = dialect.quotes.opening ::
      (name.toList.flatMap (fun c => if c = dialect.quotes.closing then
        [dialect.quotes.closing, c] else [c]) ++ dialect.quotes.closing :: rest) := by
    simp [Dialect.quote, Dialect.quoteChars]
  rw [spelled, next?, if_pos rfl, quoted?_append _ alone]
  simp

theorem next?_parameter {name : String} (named : isName name.toList)
    (ends : Ends isNameChar rest) :
    next? dialect ((dialect.placeholder name).toList ++ rest) = some (parameter name, rest) := by
  obtain ⟨filled, inside⟩ : name.toList ≠ [] ∧ ∀ c ∈ name.toList, isNameChar c := by
    simpa [isName] using named
  have unquoted : dialect.marker.char ≠ dialect.quotes.opening := by cases dialect <;> decide
  have spelled : (dialect.placeholder name).toList = dialect.marker.char :: name.toList := by
    simp [Dialect.placeholder, Dialect.Marker.placeholder]
  rw [spelled, List.cons_append, next?, if_neg unquoted, if_pos rfl,
    run?_append filled inside ends]
  simp

theorem next?_word {text : String} (spelled : isWord text.toList) (ends : Ends isNameChar rest) :
    next? dialect (text.toList ++ rest) = some (word text, rest) := by
  obtain ⟨chars, rfl⟩ : ∃ chars, text = String.ofList chars := ⟨text.toList, by simp⟩
  rw [String.toList_ofList] at spelled ⊢
  cases chars with
  | nil => cases spelled
  | cons c chars =>
    obtain ⟨start, inside⟩ : isNameStart c ∧ ∀ c ∈ chars, isNameChar c := by
      simpa [isWord] using spelled
    obtain ⟨unquoted, unmarked, unsigned⟩ :=
      ne_of_isNameChar (isNameChar_of_isNameStart start) dialect
    have whole : ∀ d ∈ c :: chars, isNameChar d :=
      List.forall_mem_cons.mpr ⟨isNameChar_of_isNameStart start, inside⟩
    have read := run?_append (by simp) whole ends
    rw [List.cons_append] at read ⊢
    simp [next?, unquoted, unmarked, unsigned, not_isDigit_of_isNameStart start, start, read]

theorem next?_integer {text : String} (spelled : isInteger text.toList) (cut : IsCut rest) :
    next? dialect (text.toList ++ rest) = some (integer text, rest) := by
  obtain ⟨chars, rfl⟩ : ∃ chars, text = String.ofList chars := ⟨text.toList, by simp⟩
  rw [String.toList_ofList] at spelled ⊢
  have ends : Ends Char.isDigit rest := cut.ends not_isDigit_of_isBoundary
  unfold isInteger at spelled
  split at spelled
  · rename_i digits
    obtain ⟨filled, inside⟩ : digits ≠ [] ∧ ∀ c ∈ digits, c.isDigit := by
      simpa [isDigits] using spelled
    have unquoted : '-' ≠ dialect.quotes.opening := by cases dialect <;> decide
    have unmarked : '-' ≠ dialect.marker.char := by cases dialect <;> decide
    rw [List.cons_append, next?, if_neg unquoted, if_neg unmarked, if_pos rfl,
      run?_append filled inside ends]
    simp [String.ofList_cons]
  · cases chars with
    | nil => cases spelled
    | cons c chars =>
      obtain ⟨digit, inside⟩ : c.isDigit ∧ ∀ c ∈ chars, c.isDigit := by
        simpa [isDigits] using spelled
      obtain ⟨unquoted, unmarked, unsigned⟩ :=
        ne_of_isNameChar (isNameChar_of_isDigit digit) dialect
      have whole : ∀ d ∈ c :: chars, d.isDigit := List.forall_mem_cons.mpr ⟨digit, inside⟩
      have read := run?_append (by simp) whole ends
      rw [List.cons_append] at read ⊢
      simp [next?, unquoted, unmarked, unsigned, digit, read]

/-- Of all marks only `<` and `>` begin another one. -/
theorem read?_mark (symbol : Mark) (cut : symbol = .less ∨ symbol = .greater → IsCut rest) :
    Mark.read? (symbol.text.toList ++ rest) = some (symbol, rest) := by
  cases symbol with
  | less | greater =>
    cases rest with
    | nil => rfl
    | cons c rest =>
      have boundary : isBoundary c := cut (by simp) c rfl
      rcases eq_of_isBoundary boundary with rfl | rfl | rfl | rfl <;> rfl
  | _ => rfl

theorem next?_mark (symbol : Mark) (cut : symbol = .less ∨ symbol = .greater → IsCut rest) :
    next? dialect (symbol.text.toList ++ rest) = some (mark symbol, rest) := by
  obtain ⟨c, tail, spelled, unsigned, undigit, unnamed, own⟩ : ∃ c tail,
      symbol.text.toList = c :: tail ∧ c ≠ '-' ∧ c.isDigit = false ∧ isNameStart c = false ∧
        c ≠ dialect.quotes.opening ∧ c ≠ dialect.marker.char := by
    cases symbol <;> cases dialect <;> exact ⟨_, _, rfl, by decide⟩
  have read := read?_mark symbol cut
  rw [spelled, List.cons_append] at read ⊢
  simp [next?, unsigned, undigit, unnamed, own, read]

/-- A character stays as it is or becomes a small letter. -/
theorem toLower_cases (c : Char) : c.toLower = c ∨ c.toLower.isLower := by
  unfold Char.toLower
  split
  · rename_i upper
    obtain ⟨low, high⟩ : 65 ≤ c.val.toNat ∧ c.val.toNat ≤ 90 := upper
    have distance : ('a'.val - 'A'.val).toNat = 32 := rfl
    right
    rw [isLower_iff, UInt32.toNat_add, distance]
    omega
  · exact .inl rfl

theorem isNameStart_of_isLower {c : Char} (lower : c.isLower) : isNameStart c := by
  change (c.isUpper || c.isLower || c == '_') = true
  simp [lower]

theorem isNameStart_toLower {c : Char} (start : isNameStart c) : isNameStart c.toLower := by
  rcases toLower_cases c with same | lower
  · rwa [same]
  · exact isNameStart_of_isLower lower

theorem isNameChar_toLower {c : Char} (inside : isNameChar c) : isNameChar c.toLower := by
  rcases toLower_cases c with same | lower
  · rwa [same]
  · exact isNameChar_of_isNameStart (isNameStart_of_isLower lower)

theorem isWord_spell {text : String} (spelled : isWord text.toList) (letterCase : LetterCase) :
    isWord (letterCase.spell text).toList := by
  cases letterCase with
  | upper => exact spelled
  | lower =>
    rw [LetterCase.spell, String.toList_map]
    cases chars : text.toList with
    | nil =>
      rw [chars] at spelled
      cases spelled
    | cons c rest =>
      rw [chars] at spelled
      obtain ⟨start, inside⟩ : isNameStart c ∧ ∀ c ∈ rest, isNameChar c := by
        simpa [isWord] using spelled
      simp only [isWord, List.map_cons, isNameStart_toLower start, Bool.true_and, List.all_eq_true,
        List.mem_map]
      rintro _ ⟨d, member, rfl⟩
      exact isNameChar_toLower (inside d member)

theorem isWord_keyword (keyword : Keyword) : isWord keyword.text.toList := by
  cases keyword <;> decide

theorem isDigits_repr (n : Nat) : isDigits n.repr.toList := by
  have inside : ∀ c ∈ Nat.toDigits 10 n, c.isDigit :=
    fun c member => Nat.isDigit_of_mem_toDigits (by decide) (by decide) member
  simpa [isDigits] using inside

theorem isWord_letter : ∀ place < 26,
    isWord (Char.ofNat ('a'.toNat + place)).toString.toList := by
  decide

theorem isWord_alias (qualifier : Alias) : isWord qualifier.text.toList := by
  unfold Alias.text
  split
  · rename_i letter
    exact isWord_letter _ (UInt8.lt_iff_toNat_lt.mp letter)
  · have inside : ∀ c ∈ Nat.toDigits 10 qualifier.code.toNat, isNameChar c := fun c member =>
      isNameChar_of_isDigit (Nat.isDigit_of_mem_toDigits (by decide) (by decide) member)
    have start : isNameStart 't' := by decide
    simpa [isWord, start, Nat.toString_eq_ofList_toDigits] using inside

theorem lex_append {lexeme : Lexeme} (read : next? dialect (text ++ rest) = some (lexeme, rest)) :
    lex dialect (text ++ rest) = (lex dialect rest).map ([lexeme] ++ ·) :=
  lex_next read

end Lexeme

namespace Chunk

open Lexeme

/-- Whether a chunk is made of lexemes whatever stands around it: a word or a name of a function is
a word, raw text an integer, and a parameter has a name that can be told from what follows it. -/
def isLexical : Chunk → Bool
  | token (.mark .dot) => false
  | token _ | identifier _ | column _ _ => true
  | word text | function text => isWord text.toList
  | raw content => isInteger content.toList
  | parameter name => isName name.toList

def lexemes (letterCase : LetterCase) : Chunk → List Lexeme
  | token (.keyword keyword) => [.word (letterCase.spell keyword.text)]
  | token (.mark symbol) => [.mark symbol]
  | word text | function text => [.word (letterCase.spell text)]
  | identifier name | column none name => [.identifier name]
  | column (some qualifier) name => [.word qualifier.text, .mark .dot, .identifier name]
  | raw content => [.integer content]
  | parameter name => [.parameter name]

variable {dialect : Dialect} {letterCase : LetterCase} {rest : List Char}

/-- A chunk is read as its lexemes, if what follows is no part of them. Nothing goes on with an
opening parenthesis. -/
theorem lex_text {chunk : Chunk} (lexical : chunk.isLexical)
    (cut : chunk ≠ mark .leftParen → IsCut rest) :
    lex dialect ((chunk.text dialect letterCase).toList ++ rest) =
      (lex dialect rest).map (chunk.lexemes letterCase ++ ·) := by
  have ends : chunk ≠ mark .leftParen → Ends isNameChar rest :=
    fun other => (cut other).ends not_isNameChar_of_isBoundary
  cases chunk with
  | token spelling =>
    cases spelling with
    | keyword name =>
      exact lex_append (next?_word (isWord_spell (isWord_keyword name) letterCase) (ends nofun))
    | mark symbol =>
      refine lex_append (next?_mark symbol fun extensible => cut ?_)
      rcases extensible with rfl | rfl <;> nofun
  | word text => exact lex_append (next?_word (isWord_spell lexical letterCase) (ends nofun))
  | function name => exact lex_append (next?_word (isWord_spell lexical letterCase) (ends nofun))
  | identifier name => exact lex_append (next?_identifier name (cut nofun))
  | column qualifier name =>
    cases qualifier with
    | none => exact lex_append (next?_identifier name (cut nofun))
    | some qualifier =>
      have spelled : ((column (some qualifier) name).text dialect letterCase).toList ++ rest =
          qualifier.text.toList ++
            (Mark.dot.text.toList ++ ((dialect.quote name).toList ++ rest)) := by
        simp [text, Mark.text]
      have point :
          Ends isNameChar (Mark.dot.text.toList ++ ((dialect.quote name).toList ++ rest)) := by
        rintro c first
        cases first
        rfl
      rw [spelled, lex_append (next?_word (isWord_alias qualifier) point),
        lex_append (next?_mark .dot (by simp)), lex_append (next?_identifier name (cut nofun))]
      simp [lexemes, Function.comp_def]
  | raw content => exact lex_append (next?_integer lexical (cut nofun))
  | parameter name => exact lex_append (next?_parameter lexical (ends nofun))

/-- Chunks stand close to each other only at a parenthesis or a comma. -/
theorem eq_of_not_isSpaced {first second : Chunk} (lexical : first.isLexical ∧ second.isLexical)
    (close : first.isSpaced second = false) (other : first ≠ mark .leftParen) :
    second = mark .rightParen ∨ second = mark .comma ∨ second = mark .leftParen := by
  unfold isSpaced at close
  split at close
  · exact .inl rfl
  · exact .inr (.inl rfl)
  · cases lexical.2
  · exact (other rfl).elim
  · cases lexical.1
  · exact .inr (.inr rfl)
  · cases close

end Chunk

open Lexeme

variable {dialect : Dialect} {letterCase : LetterCase}

theorem render_singleton (chunk : Chunk) :
    Sql.render [chunk] dialect letterCase = chunk.text dialect letterCase := by
  simp [Sql.render, pieces]

theorem toList_render_cons (first second : Chunk) (rest : Sql) :
    (Sql.render (first :: second :: rest) dialect letterCase).toList =
      (first.text dialect letterCase).toList ++ ((if first.isSpaced second then [' '] else []) ++
        (Sql.render (second :: rest) dialect letterCase).toList) := by
  by_cases spaced : first.isSpaced second <;> simp [Sql.render, pieces, spaced]

theorem exists_render_mark (symbol : Mark) (rest : Sql) :
    ∃ more, (Sql.render (.mark symbol :: rest) dialect letterCase).toList =
      symbol.text.toList ++ more := by
  cases rest with
  | nil => exact ⟨[], by rw [render_singleton, List.append_nil]; rfl⟩
  | cons second rest => exact ⟨_, toList_render_cons ..⟩

theorem isCut_render {symbol : Mark}
    (closing : symbol = .rightParen ∨ symbol = .comma ∨ symbol = .leftParen) (rest : Sql) :
    IsCut (Sql.render (.mark symbol :: rest) dialect letterCase).toList := by
  obtain ⟨more, spelled⟩ := @exists_render_mark dialect letterCase symbol rest
  rw [spelled]
  rcases closing with rfl | rfl | rfl <;> rintro c first <;> cases first <;> rfl

/-- What is written of chunks is read as their lexemes, one after the other: no two run together,
none falls apart, and no name ends its quotes. -/
theorem lex_render (sql : Sql) (lexical : ∀ chunk ∈ sql, chunk.isLexical) (dialect : Dialect)
    (letterCase : LetterCase) :
    lex dialect (sql.render dialect letterCase).toList =
      some (sql.flatMap (Chunk.lexemes letterCase)) := by
  -- By induction on the chunks: what follows a chunk begins with a blank or, where it is written
  -- without one, with a parenthesis or a comma, and none of these is part of a lexeme before it.
  induction sql with
  | nil => exact lex_nil
  | cons first rest ih =>
    obtain ⟨lexicalFirst, lexicalRest⟩ := List.forall_mem_cons.mp lexical
    have read := ih lexicalRest
    cases rest with
    | nil =>
      have cut : IsCut [] := nofun
      rw [render_singleton, ← List.append_nil (String.toList _),
        Chunk.lex_text lexicalFirst fun _ => cut, lex_nil]
      simp
    | cons second rest =>
      rw [toList_render_cons, List.flatMap_cons]
      by_cases spaced : first.isSpaced second
      · rw [if_pos spaced, Chunk.lex_text lexicalFirst, List.singleton_append, lex_blank, read]
        · rfl
        · rintro - c blank
          cases blank
          rfl
      · rw [if_neg spaced, List.nil_append, Chunk.lex_text lexicalFirst, read]
        · rfl
        · intro other
          have both := And.intro lexicalFirst (lexicalRest second (by simp))
          rcases Chunk.eq_of_not_isSpaced both (by simpa using spaced) other
            with rfl | rfl | rfl <;> exact isCut_render (by simp) rest

/-- Columns whose names try to end their quotes, a number and a parameter. -/
def hostile : Sql :=
  [.keyword .SELECT, .column (some ⟨0⟩) "x]]; --", .mark .comma, .identifier "]",
      .keyword .WHERE] ++
    call "ROUND" [.column none "", .mark .comma, .number (-2)] ++ [.mark .less, .parameter "0_a"]

theorem lex_render_hostile :
    hostile.render .sqlServer .upper = "SELECT a.[x]]]]; --], []]] WHERE ROUND([], -2) < @0_a" ∧
    lex .sqlServer (hostile.render .sqlServer .upper).toList =
      some [.word "SELECT", .word "a", .mark .dot, .identifier "x]]; --", .mark .comma,
        .identifier "]", .word "WHERE", .word "ROUND", .mark .leftParen, .identifier "",
        .mark .comma, .integer "-2", .mark .rightParen, .mark .less, .parameter "0_a"] := by
  have lexical : ∀ chunk ∈ hostile, chunk.isLexical := by decide
  exact ⟨by decide +kernel, lex_render hostile lexical .sqlServer .upper⟩

end TypedSql.Sql
