import TypedSql.Sql.Chunk

namespace TypedSql

namespace Sql

/-- The table that `FROM` or `JOIN` brings in before a rest of a statement, and the alias that it
gets there. -/
def Chunk.introduction? (chunk : Chunk) (rest : Sql) : Option (String × String) :=
  match rest with
  | .identifier table :: .raw qualifier :: _ =>
    if chunk = .keyword .FROM ∨ chunk = .keyword .JOIN then some (table, qualifier) else none
  | _ => none

/-- The tables that a statement brings in from left to right, each with its alias. -/
def introductions : Sql → List (String × String)
  | [] => []
  | chunk :: rest => (chunk.introduction? rest).toList ++ introductions rest

def Chunk.endsLinks (chunk : Chunk) : Bool :=
  chunk == .keyword .INNER || chunk == .keyword .LEFT || chunk == .keyword .RIGHT ||
    chunk == .keyword .FULL || chunk == .keyword .WHERE || chunk == .keyword .ORDER

def links (rest : Sql) : Sql :=
  rest.takeWhile fun chunk => !chunk.endsLinks

/-- A part of a statement that the part before it does not run into. -/
def IsSeparate (sql : Sql) : Prop :=
  ∀ chunk ∈ sql.head?, ∃ token, chunk = .token token

theorem introductions_append {first second : Sql} (separate : IsSeparate second) :
    introductions (first ++ second) = introductions first ++ introductions second := by
  induction first with
  | nil => rfl
  | cons chunk rest ih =>
    have same : chunk.introduction? (rest ++ second) = chunk.introduction? rest := by
      -- A table and its alias are two chunks, neither of which can be the head of what follows.
      rcases rest with _ | ⟨next, _ | ⟨last, others⟩⟩
      · rcases second with _ | ⟨head, tail⟩
        · rfl
        · obtain ⟨token, rfl⟩ := separate head rfl
          rfl
      · rcases second with _ | ⟨head, tail⟩
        · rfl
        · obtain ⟨token, rfl⟩ := separate head rfl
          cases next <;> rfl
      · cases next <;> cases last <;> rfl
    rw [List.cons_append, introductions, introductions, ih, same, List.append_assoc]

theorem introductions_of_no_identifier {sql : Sql}
    (nameless : ∀ name, Chunk.identifier name ∉ sql) : introductions sql = [] := by
  induction sql with
  | nil => rfl
  | cons chunk rest ih =>
    have none : chunk.introduction? rest = none := by
      unfold Chunk.introduction?
      split
      · rename_i table _ _
        exact (nameless table (by simp)).elim
      · rfl
    rw [introductions, none,
      ih fun name member => nameless name (List.mem_cons_of_mem chunk member)]
    rfl

theorem introductions_of_no_keyword {sql : Sql} (from' : Chunk.keyword .FROM ∉ sql)
    (join : Chunk.keyword .JOIN ∉ sql) : introductions sql = [] := by
  induction sql with
  | nil => rfl
  | cons chunk rest ih =>
    simp only [List.mem_cons, not_or] at from' join
    have none : chunk.introduction? rest = none := by
      unfold Chunk.introduction?
      split
      · rw [if_neg]
        rintro (rfl | rfl)
        · exact from'.1 rfl
        · exact join.1 rfl
      · rfl
    rw [introductions, none, ih from'.2 join.2]
    rfl

theorem mem_of_mem_links {first second : Sql} {chunk : Chunk}
    (ended : ∀ head ∈ second.head?, head.endsLinks = true)
    (member : chunk ∈ links (first ++ second)) : chunk ∈ first := by
  induction first with
  | nil =>
    cases second with
    | nil => exact member
    | cons head tail => simp [links, ended head rfl] at member
  | cons head tail ih =>
    rw [List.cons_append, links, List.takeWhile_cons] at member
    split at member
    · rcases List.mem_cons.mp member with rfl | later
      · simp
      · exact List.mem_cons_of_mem head (ih later)
    · cases member

theorem split_append {first second before after : Sql} {chunk : Chunk}
    (split : first ++ second = before ++ chunk :: after) :
    (∃ rest, first = before ++ chunk :: rest ∧ after = rest ++ second) ∨
      ∃ start, second = start ++ chunk :: after ∧ before = first ++ start := by
  rcases List.append_eq_append_iff.mp split with ⟨start, same, inside⟩ | ⟨rest, same, inside⟩
  · exact .inr ⟨start, inside, same⟩
  · cases rest with
    | nil => exact .inr ⟨[], by simpa using inside.symm, by simpa using same.symm⟩
    | cons head tail =>
      obtain ⟨rfl, rfl⟩ := List.cons.inj inside
      exact .inl ⟨tail, same, rfl⟩

theorem split_flatMap {α : Type} {parts : List α} {spell : α → Sql} {chunk : Chunk}
    {before after : Sql} (split : parts.flatMap spell = before ++ chunk :: after) :
    ∃ earlier part later start rest, parts = earlier ++ part :: later ∧
      spell part = start ++ chunk :: rest ∧ before = earlier.flatMap spell ++ start ∧
      after = rest ++ later.flatMap spell := by
  induction parts generalizing before with
  | nil => simp at split
  | cons first others ih =>
    rcases split_append split with ⟨rest, written, rfl⟩ | ⟨start, inside, rfl⟩
    · exact ⟨[], first, others, before, rest, rfl, written, rfl, rfl⟩
    · obtain ⟨earlier, part, later, start, rest, rfl, written, rfl, rfl⟩ := ih inside
      exact ⟨first :: earlier, part, later, start, rest, rfl, written, by simp, rfl⟩

theorem split_between {α : Type} {parts : List α} {spell : α → Sql} {chunk : Chunk}
    {first last before after : Sql}
    (split : first ++ parts.flatMap spell ++ last = before ++ chunk :: after)
    (notFirst : chunk ∉ first) (notLast : chunk ∉ last) :
    ∃ earlier part later start rest, parts = earlier ++ part :: later ∧
      spell part = start ++ chunk :: rest ∧ before = first ++ earlier.flatMap spell ++ start ∧
      after = rest ++ later.flatMap spell ++ last := by
  rcases split_append split with ⟨rest, inside, rfl⟩ | ⟨start, inside, _⟩
  · rcases split_append inside with ⟨other, own, _⟩ | ⟨start, own, rfl⟩
    · simp [own] at notFirst
    · obtain ⟨earlier, part, later, start, rest, rfl, written, rfl, rfl⟩ := split_flatMap own
      exact ⟨earlier, part, later, start, rest, rfl, written, by simp, rfl⟩
  · simp [inside] at notLast

theorem mem_introductions_append {first second : Sql} {entry : String × String}
    (member : entry ∈ introductions first ∨ entry ∈ introductions second) :
    entry ∈ introductions (first ++ second) := by
  induction first with
  | nil =>
    rcases member with own | later
    · cases own
    · exact later
  | cons chunk rest ih =>
    have kept : ∀ own, chunk.introduction? rest = some own →
        chunk.introduction? (rest ++ second) = some own := by
      intro own introduced
      unfold Chunk.introduction? at introduced
      split at introduced
      · exact introduced
      · cases introduced
    rw [List.cons_append, introductions, List.mem_append]
    rcases member with own | later
    · rcases List.mem_append.mp own with head | tail
      · exact .inl (Option.mem_toList.mpr (kept entry (Option.mem_toList.mp head)))
      · exact .inr (ih (.inl tail))
    · exact .inr (ih (.inr later))

end Sql

end TypedSql
