import TypedSql.Proofs.Sql.Placeholders
import TypedSql.Row

namespace TypedSql

namespace Sql

structure Insertion where
  table : String
  columns : List String
  placeholders : List String

def Chunk.ownColumn? : Chunk → Option String
  | column none name => some name
  | _ => none

/-- The names in a list up to the parenthesis that closes it, and what follows. -/
def names? (name? : Chunk → Option String) : Sql → Option (List String × Sql)
  | first :: .token (.mark .comma) :: rest => do
    let name ← name? first
    let (names, after) ← names? name? rest
    return (name :: names, after)
  | last :: .token (.mark .rightParen) :: after => do
    return ([← name? last], after)
  | _ => none

/-- `INSERT INTO table (columns) VALUES (placeholders)` -/
def insertion? : Sql → Option Insertion
  | .token (.keyword .INSERT) :: .token (.keyword .INTO) :: .identifier table ::
      .token (.mark .leftParen) :: rest =>
    match names? Chunk.ownColumn? rest with
    | some (columns, .token (.keyword .VALUES) :: .token (.mark .leftParen) :: rest) =>
      match names? Chunk.placeholder? rest with
      | some (placeholders, []) => some ⟨table, columns, placeholders⟩
      | _ => none
    | _ => none
  | _ => none

def Insertion.row? (insertion : Insertion) (parameters : Parameters) : Option Row := do
  let values ← insertion.placeholders.mapM parameters.get?
  return ⟨insertion.columns.zip values⟩

theorem names?_commas {name? : Chunk → Option String} {chunk : String → Chunk}
    (read : ∀ name, name? (chunk name) = some name) {names : List String} (filled : names ≠ [])
    (after : Sql) :
    names? name? (commas (names.map fun name => [chunk name]) ++ .mark .rightParen :: after) =
      some (names, after) := by
  obtain ⟨first, rest, rfl⟩ := List.exists_cons_of_ne_nil filled
  induction rest generalizing first with
  | nil =>
    have written : commas ([first].map fun name => [chunk name]) ++ .mark .rightParen :: after =
        chunk first :: .mark .rightParen :: after := by simp [commas, join]
    rw [written]
    change (name? (chunk first) >>= fun name => some ([name], after)) = _
    rw [read]
    rfl
  | cons second rest ih =>
    have later := ih second (by simp)
    have written : commas ((first :: second :: rest).map fun name => [chunk name]) ++
        .mark .rightParen :: after = chunk first :: .mark .comma ::
          (commas ((second :: rest).map fun name => [chunk name]) ++
            .mark .rightParen :: after) := by
      simp [commas, join_cons_cons, Chunk.mark]
    rw [written]
    change (name? (chunk first) >>= fun name => names? name? (commas ((second :: rest).map
      fun name => [chunk name]) ++ .mark .rightParen :: after) >>=
        fun found => some (name :: found.1, found.2)) = _
    rw [later, read]
    rfl

theorem insertion?_ok {table : String} {columns placeholders : List String}
    (filled : columns ≠ []) (given : placeholders ≠ []) :
    insertion? (keywords [.INSERT, .INTO] ++ .identifier table ::
        parens (commas (columns.map fun name => [.column none name])) ++
          .keyword .VALUES :: parens (commas (placeholders.map fun name => [.parameter name]))) =
      some ⟨table, columns, placeholders⟩ := by
  have readColumns := @names?_commas Chunk.ownColumn? (.column none) (fun _ => rfl) columns filled
  have readPlaceholders :=
    @names?_commas Chunk.placeholder? .parameter (fun _ => rfl) placeholders given []
  have written : keywords [.INSERT, .INTO] ++ .identifier table ::
      parens (commas (columns.map fun name => [.column none name])) ++
        .keyword .VALUES :: parens (commas (placeholders.map fun name => [.parameter name])) =
      .token (.keyword .INSERT) :: .token (.keyword .INTO) :: .identifier table ::
        .token (.mark .leftParen) :: (commas (columns.map fun name => [.column none name]) ++
          .mark .rightParen :: .token (.keyword .VALUES) :: .token (.mark .leftParen) ::
            (commas (placeholders.map fun name => [.parameter name]) ++ [.mark .rightParen])) := by
    simp [keywords, parens, Chunk.keyword, Chunk.mark]
  rw [written, insertion?, readColumns]
  simp only [readPlaceholders]

end Sql

end TypedSql
