import Mathlib.Data.List.TakeWhile
import TypedSql.Proofs.Sql.Lexing
import TypedSql.Proofs.Sql.Placeholders

namespace TypedSql

namespace Sql

open Lexeme
open Text (Ends)

namespace Lexeme

variable {dialect : Dialect} {tail : List Char} {name : String}

theorem all_of_run? {among : Char → Bool} {run : String} {text : List Char}
    (read : run? among text = some (run, tail)) : ∀ c ∈ run.toList, among c := by
  unfold run? at read
  split at read
  · cases read
  · cases read
    intro c member
    rw [String.toList_ofList] at member
    exact List.mem_takeWhile_imp member

/-- A mark and a name are read as one parameter if and only if nothing ends the name early. -/
theorem next?_parameter_iff (filled : name.toList ≠ []) (ends : Ends isNameChar tail) :
    next? dialect ((dialect.placeholder name).toList ++ tail) = some (parameter name, tail) ↔
      ∀ c ∈ name.toList, isNameChar c := by
  constructor
  · intro read
    have unquoted : dialect.marker.char ≠ dialect.quotes.opening := by cases dialect <;> decide
    have spelled : (dialect.placeholder name).toList = dialect.marker.char :: name.toList := by
      simp [Dialect.placeholder, Dialect.Marker.placeholder]
    rw [spelled, List.cons_append, next?, if_neg unquoted, if_pos rfl] at read
    obtain ⟨⟨run, rest⟩, inside, same⟩ := Option.map_eq_some_iff.mp read
    cases same
    exact all_of_run? inside
  · intro inside
    exact next?_parameter (by simpa [isName, filled] using inside) ends

theorem numbered_chars (column : String) (number : Nat) :
    (Parameters.numbered column number).toList ≠ [] ∧
      ((∀ c ∈ (Parameters.numbered column number).toList, isNameChar c) ↔
        ∀ c ∈ column.toList, isNameChar c) := by
  have spelled : (Parameters.numbered column number).toList =
      column.toList ++ number.repr.toList := String.toList_append
  have digits : ∀ c ∈ number.repr.toList, c.isDigit := by
    simpa [isDigits] using isDigits_repr number
  refine ⟨by simp [spelled], ?_⟩
  rw [spelled, List.forall_mem_append]
  exact and_iff_left fun c member => isNameChar_of_isDigit (digits c member)

end Lexeme

variable {dialect : Dialect} {letterCase : LetterCase}

theorem exists_render_append (first : Sql) (chunk : Chunk) (second : Sql) :
    ∃ front, (Sql.render (first ++ [chunk]) dialect letterCase).toList =
        front ++ (chunk.text dialect letterCase).toList ∧
      (Sql.render (first ++ chunk :: second) dialect letterCase).toList =
        front ++ (Sql.render (chunk :: second) dialect letterCase).toList := by
  induction first with
  | nil => exact ⟨[], by simp [render_singleton], by simp⟩
  | cons c first ih =>
    obtain ⟨front, alone, whole⟩ := ih
    obtain ⟨next, more, others, same, sameWhole⟩ : ∃ next more others,
        first ++ [chunk] = next :: more ∧ first ++ chunk :: second = next :: others := by
      cases first with
      | nil => exact ⟨chunk, [], second, rfl, rfl⟩
      | cons next first => exact ⟨next, _, _, rfl, rfl⟩
    rw [same] at alone
    rw [sameWhole] at whole
    refine ⟨(c.text dialect letterCase).toList ++
      ((if c.isSpaced next then [' '] else []) ++ front), ?_, ?_⟩
    · rw [List.cons_append, same, toList_render_cons, alone]
      simp
    · rw [List.cons_append, sameWhole, toList_render_cons, whole]
      simp

theorem exists_render_parameter (name : String) (rest : Sql) :
    ∃ tail, (Sql.render (.parameter name :: rest) dialect letterCase).toList =
      (dialect.placeholder name).toList ++ tail ∧ Ends isNameChar tail := by
  cases rest with
  | nil => exact ⟨[], by simp [render_singleton, Chunk.text], Text.ends_nil⟩
  | cons second rest =>
    refine ⟨_, toList_render_cons .., ?_⟩
    by_cases spaced : (Chunk.parameter name).isSpaced second
    · rw [if_pos spaced]
      exact Text.ends_cons rfl
    · rw [if_neg spaced, List.nil_append]
      obtain ⟨symbol, rfl, closing⟩ : ∃ symbol, second = .mark symbol ∧
          (symbol = .rightParen ∨ symbol = .comma ∨ symbol = .dot) := by
        unfold Chunk.isSpaced at spaced
        split at spaced
        · exact ⟨.rightParen, rfl, by simp⟩
        · exact ⟨.comma, rfl, by simp⟩
        · exact ⟨.dot, rfl, by simp⟩
        · cases ‹Chunk.parameter name = .token (.mark .leftParen)›
        · cases ‹Chunk.parameter name = .token (.mark .dot)›
        · cases ‹Chunk.parameter name = .function _›
        · exact (spaced rfl).elim
      obtain ⟨more, spelled⟩ := @exists_render_mark dialect letterCase symbol rest
      rw [spelled]
      rcases closing with rfl | rfl | rfl <;> exact Text.ends_cons rfl

/-- Each placeholder has the name of one of the columns with a number behind it, and is read, where
it stands in the text, as one parameter of this name if and only if the name of the column is made
of letters, digits and underscores. -/
def Spells (columns : List String) (dialect : Dialect) (letterCase : LetterCase) (sql : Sql) :
    Prop :=
  ∀ first name second, sql = first ++ .parameter name :: second →
    ∃ column ∈ columns, (∃ number, name = Parameters.numbered column number) ∧
      ∃ front tail,
        (Sql.render (first ++ [.parameter name]) dialect letterCase).toList =
          front ++ (dialect.placeholder name).toList ∧
        (sql.render dialect letterCase).toList =
          front ++ ((dialect.placeholder name).toList ++ tail) ∧
        (next? dialect ((dialect.placeholder name).toList ++ tail) =
            some (.parameter name, tail) ↔
          ∀ c ∈ column.toList, isNameChar c)

def NamedAfter (columns : List String) (sql : Sql) : Prop :=
  ∀ name ∈ placeholders sql, ∃ column ∈ columns, ∃ number, name = Parameters.numbered column number

theorem NamedAfter.append {columns others : List String} {front back : Sql}
    (first : NamedAfter columns front) (last : NamedAfter others back) :
    NamedAfter (columns ++ others) (front ++ back) := by
  intro name placed
  rw [placeholders_append, List.mem_append] at placed
  rcases placed with here | there
  · obtain ⟨column, member, named⟩ := first name here
    exact ⟨column, List.mem_append_left _ member, named⟩
  · obtain ⟨column, member, named⟩ := last name there
    exact ⟨column, List.mem_append_right _ member, named⟩

theorem NamedAfter.around {columns : List String} {inner sql : Sql}
    (named : NamedAfter columns inner) (kept : placeholders sql = placeholders inner) :
    NamedAfter columns sql := by
  unfold NamedAfter
  rw [kept]
  exact named

theorem NamedAfter.spells {columns : List String} {sql : Sql} (named : NamedAfter columns sql)
    (dialect : Dialect) (letterCase : LetterCase) : Spells columns dialect letterCase sql := by
  rintro first name second rfl
  obtain ⟨column, member, number, rfl⟩ := named name (by simp)
  obtain ⟨front, alone, whole⟩ := @exists_render_append dialect letterCase first
    (.parameter (Parameters.numbered column number)) second
  obtain ⟨tail, spelled, ends⟩ := @exists_render_parameter dialect letterCase
    (Parameters.numbered column number) second
  obtain ⟨filled, chars⟩ := numbered_chars column number
  refine ⟨column, member, ⟨number, rfl⟩, front, tail, alone, by rw [whole, spelled], ?_⟩
  rw [next?_parameter_iff filled ends, chars]

end Sql

end TypedSql
