import TypedSql.Proofs.Sql.Words
import TypedSql.Proofs.Text.Run

namespace TypedSql.Sql

open Predicate (Level)

/-- The section `WHERE` of a statement, which goes on up to the order of the rows. -/
def whereSection? (sql : Sql) : Option Sql :=
  match sql.dropWhile (· != .keyword .WHERE) with
  | [] => none
  | _ :: rest => some (rest.takeWhile (· != .keyword .ORDER))

section

variable {before condition after : Sql}

theorem whereSection?_none (absent : Chunk.keyword .WHERE ∉ before) :
    whereSection? before = none := by
  have others : ∀ chunk ∈ before, (chunk != .keyword .WHERE) = true := by
    intro chunk member
    simpa using fun same : chunk = .keyword .WHERE => absent (same ▸ member)
  have dropped := Text.dropWhile_run others Text.ends_nil
  rw [List.append_nil] at dropped
  rw [whereSection?, dropped]

theorem whereSection?_some (absent : Chunk.keyword .WHERE ∉ before)
    (unordered : Chunk.keyword .ORDER ∉ condition)
    (ordered : ∀ chunk ∈ after.head?, chunk = .keyword .ORDER) :
    whereSection? (before ++ .keyword .WHERE :: condition ++ after) = some condition := by
  have others : ∀ chunk ∈ before, (chunk != .keyword .WHERE) = true := by
    intro chunk member
    simpa using fun same : chunk = .keyword .WHERE => absent (same ▸ member)
  have inside : ∀ chunk ∈ condition, (chunk != .keyword .ORDER) = true := by
    intro chunk member
    simpa using fun same : chunk = .keyword .ORDER => unordered (same ▸ member)
  have ends : Text.Ends (· != Chunk.keyword .ORDER) after := by
    intro chunk first
    rw [ordered chunk first]
    rfl
  have starts : Text.Ends (· != Chunk.keyword .WHERE)
      (.keyword .WHERE :: condition ++ after) := Text.ends_cons rfl
  rw [whereSection?, List.append_assoc, Text.dropWhile_run others starts]
  exact congrArg some (Text.takeWhile_run inside ends)

end

/-- A condition does not reach into the order of the rows. -/
theorem not_order_of_derives {level : Level} {sql : Sql} {tree : Predicate.Tree Sql}
    (derived : grammar.Derives level sql tree) : Chunk.keyword .ORDER ∉ sql :=
  not_mem_of_isConditional (isConditional_of_derives derived) rfl

end TypedSql.Sql
