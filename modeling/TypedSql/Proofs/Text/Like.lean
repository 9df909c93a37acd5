import Mathlib.Data.List.Infix
import TypedSql.Predicate.Compilation

namespace TypedSql

namespace Text

def isWildcard (c : Char) : Bool :=
  c == '%' || c == '_'

/-- Whether a text is like a pattern, where `%` stands for any text and `_` for any character. -/
def isLike : List Char → List Char → Bool
  | [], text => text.isEmpty
  | sign :: pattern, text =>
    if sign = '%' then text.tails.any (isLike pattern)
    else
      match text with
      | [] => false
      | c :: rest => (sign == '_' || sign == c) && isLike pattern rest

variable {pattern text : List Char}

theorem isLike_nil : isLike [] text = true ↔ text = [] :=
  List.isEmpty_iff

theorem isLike_percent :
    isLike ('%' :: pattern) text = true ↔ ∃ rest, rest <:+ text ∧ isLike pattern rest = true := by
  simp [isLike]

theorem isLike_cons {sign : Char} (one : sign ≠ '%') :
    isLike (sign :: pattern) text = true ↔
      ∃ c rest, text = c :: rest ∧ (sign = '_' ∨ sign = c) ∧ isLike pattern rest = true := by
  cases text with
  | nil => simp [isLike, one]
  | cons c rest => simp [isLike, one]

theorem isLike_any (text : List Char) : isLike ['%'] text = true :=
  isLike_percent.mpr ⟨[], text.nil_suffix, rfl⟩

theorem isLike_append {others : List Char} :
    isLike (pattern ++ others) text = true ↔
      ∃ front back, text = front ++ back ∧ isLike pattern front = true ∧
        isLike others back = true := by
  induction pattern generalizing text with
  | nil => simp [isLike_nil]
  | cons sign pattern ih =>
    rw [List.cons_append]
    by_cases any : sign = '%'
    · subst any
      simp only [isLike_percent, ih]
      constructor
      · rintro ⟨_, ⟨skipped, rfl⟩, front, back, rfl, first, last⟩
        exact ⟨skipped ++ front, back, by simp, ⟨front, List.suffix_append _ _, first⟩, last⟩
      · rintro ⟨_, back, rfl, ⟨front, ⟨skipped, rfl⟩, first⟩, last⟩
        exact ⟨front ++ back, ⟨skipped, by simp⟩, front, back, rfl, first, last⟩
    · simp only [isLike_cons any, ih]
      constructor
      · rintro ⟨c, _, rfl, same, front, back, rfl, first, last⟩
        exact ⟨c :: front, back, rfl, ⟨c, front, rfl, same, first⟩, last⟩
      · rintro ⟨_, back, rfl, ⟨c, front, rfl, same, first⟩, last⟩
        exact ⟨c, front ++ back, rfl, same, front, back, rfl, first, last⟩

theorem isLike_plain (plain : ∀ c ∈ pattern, isWildcard c = false) :
    isLike pattern text = true ↔ text = pattern := by
  induction pattern generalizing text with
  | nil => exact isLike_nil
  | cons sign pattern ih =>
    obtain ⟨own, others⟩ := List.forall_mem_cons.mp plain
    obtain ⟨any, one⟩ : sign ≠ '%' ∧ sign ≠ '_' := by simpa [isWildcard] using own
    simp only [isLike_cons any, ih others, one, false_or]
    constructor
    · rintro ⟨c, _, rfl, rfl, rfl⟩
      rfl
    · rintro rfl
      exact ⟨sign, pattern, rfl, rfl, rfl⟩

/-- Any character may stand for a wildcard. -/
theorem isLike_map {change : Char → Char}
    (kept : ∀ c, isWildcard c = false → change c = c) :
    isLike pattern (pattern.map change) = true := by
  induction pattern with
  | nil => rfl
  | cons sign pattern ih =>
    by_cases any : sign = '%'
    · subst any
      exact isLike_percent.mpr ⟨pattern.map change, List.suffix_cons _ _, ih⟩
    · refine (isLike_cons any).mpr ⟨change sign, pattern.map change, rfl, ?_, ih⟩
      by_cases one : sign = '_'
      · exact .inl one
      · exact .inr (kept sign (by simp [isWildcard, any, one])).symm

end Text

namespace Test

def isSearch : Test → Bool
  | contains | startsWith | endsWith => true
  | _ => false

/-- What may stand around the text that is searched for. -/
def Surrounds (kind : Test) (before after : List Char) : Prop :=
  match kind with
  | startsWith => before = []
  | endsWith => after = []
  | _ => True

theorem occurs_iff {part text : List Char} : occurs part text = true ↔ part <:+: text := by
  induction text with
  | nil => simp [occurs]
  | cons c rest ih => simp [occurs, ih, List.infix_cons_iff]

theorem onText_iff {kind : Test} (search : kind.isSearch = true) {text part : String} :
    kind.onText text part = true ↔
      ∃ before after, text.toList = before ++ (part.toList ++ after) ∧
        kind.Surrounds before after := by
  cases kind with
  | contains =>
    simp only [onText, occurs_iff, Surrounds, and_true, List.IsInfix, List.append_assoc]
    exact exists₂_congr fun _ _ => eq_comm
  | startsWith =>
    simp only [onText, List.isPrefixOf_iff_prefix, Surrounds]
    constructor
    · rintro ⟨after, same⟩
      exact ⟨[], after, same.symm, rfl⟩
    · rintro ⟨_, after, same, rfl⟩
      exact ⟨after, same.symm⟩
  | endsWith =>
    simp only [onText, List.isSuffixOf_iff_suffix, Surrounds]
    constructor
    · rintro ⟨before, same⟩
      exact ⟨before, [], by simpa using same.symm, rfl⟩
    · rintro ⟨before, _, same, rfl⟩
      exact ⟨before, by simpa using same.symm⟩
  | _ => cases search

theorem isLike_pattern {kind : Test} (search : kind.isSearch = true) {text part : String} :
    Text.isLike (kind.pattern part).toList text.toList = true ↔
      ∃ before middle after, text.toList = before ++ (middle ++ after) ∧
        kind.Surrounds before after ∧ Text.isLike part.toList middle = true := by
  cases kind with
  | contains =>
    have written : (contains.pattern part).toList = ['%'] ++ (part.toList ++ ['%']) := by
      simp [pattern]
    simp only [written, Text.isLike_append, Text.isLike_any, Surrounds]
    constructor
    · rintro ⟨before, _, same, _, middle, after, rfl, inner, _⟩
      exact ⟨before, middle, after, same, trivial, inner⟩
    · rintro ⟨before, middle, after, same, _, inner⟩
      exact ⟨before, middle ++ after, same, trivial, middle, after, rfl, inner, trivial⟩
  | startsWith =>
    have written : (startsWith.pattern part).toList = part.toList ++ ['%'] := by simp [pattern]
    simp only [written, Text.isLike_append, Text.isLike_any, Surrounds]
    constructor
    · rintro ⟨middle, after, same, inner, _⟩
      exact ⟨[], middle, after, same, rfl, inner⟩
    · rintro ⟨_, middle, after, same, rfl, inner⟩
      exact ⟨middle, after, same, inner, trivial⟩
  | endsWith =>
    have written : (endsWith.pattern part).toList = ['%'] ++ part.toList := by simp [pattern]
    simp only [written, Text.isLike_append, Text.isLike_any, Surrounds]
    constructor
    · rintro ⟨before, middle, same, _, inner⟩
      exact ⟨before, middle, [], by simpa using same, rfl, inner⟩
    · rintro ⟨before, middle, _, same, rfl, inner⟩
      exact ⟨before, middle, by simpa using same, trivial, inner⟩
  | _ => cases search

/-- Searches for a pattern and for a text agree on all texts if and only if nothing in the text
that is searched for is a wildcard. A letter in place of a wildcard tells them apart. -/
theorem isLike_pattern_eq_onText_iff {kind : Test} (search : kind.isSearch = true)
    (part : String) :
    (∀ text : String, Text.isLike (kind.pattern part).toList text.toList = true ↔
      kind.onText text part = true) ↔ ∀ c ∈ part.toList, Text.isWildcard c = false := by
  constructor
  · intro agree
    let change := fun c => if Text.isWildcard c then 'x' else c
    have kept : ∀ c, Text.isWildcard c = false → change c = c := fun c plain => by
      simp [change, plain]
    have found := (agree (String.ofList (part.toList.map change))).mp <|
      (isLike_pattern search).mpr ⟨[], part.toList.map change, [], by simp,
        by cases kind <;> trivial, Text.isLike_map kept⟩
    obtain ⟨before, after, same, _⟩ := (onText_iff search).mp found
    have lengths := congrArg List.length same
    simp only [String.toList_ofList, List.length_map, List.length_append] at lengths
    have nothing : before = [] ∧ after = [] :=
      ⟨List.length_eq_zero_iff.mp (by omega), List.length_eq_zero_iff.mp (by omega)⟩
    have unchanged : part.toList.map change = part.toList.map id := by
      simpa [nothing] using same
    intro c member
    have own := List.map_inj_left.mp unchanged c member
    cases wildcard : Text.isWildcard c with
    | false => rfl
    | true =>
      have isX : 'x' = c := by simpa [change, wildcard] using own
      subst isX
      cases wildcard
  · intro plain text
    rw [isLike_pattern search, onText_iff search]
    simp only [Text.isLike_plain plain]
    constructor
    · rintro ⟨before, _, after, same, surrounds, rfl⟩
      exact ⟨before, after, same, surrounds⟩
    · rintro ⟨before, after, same, surrounds⟩
      exact ⟨before, part.toList, after, same, surrounds, rfl⟩

theorem isLike_of_onText {kind : Test} (search : kind.isSearch = true) {text part : String}
    (found : kind.onText text part = true) :
    Text.isLike (kind.pattern part).toList text.toList = true := by
  obtain ⟨before, after, same, surrounds⟩ := (onText_iff search).mp found
  have own : Text.isLike part.toList part.toList = true := by
    simpa using @Text.isLike_map part.toList id fun _ _ => rfl
  exact (isLike_pattern search).mpr ⟨before, part.toList, after, same, surrounds, own⟩

end Test

end TypedSql
