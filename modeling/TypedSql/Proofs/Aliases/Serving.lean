import TypedSql.Proofs.Aliases
import TypedSql.Proofs.Distinct

namespace TypedSql.Aliases

variable {before after aliases : Aliases} {table : Table} {qualifier : Alias}
  {result : Except Error Alias}

/-- Asks for the alias of a table. A failure leaves the aliases as they are. -/
def request (aliases : Aliases) (table : Table) : Except Error Alias × Aliases :=
  match aliases.aliasFor table with
  | .ok (qualifier, next) => (.ok qualifier, next)
  | .error error => (.error error, aliases)

def serve (aliases : Aliases) : List Table → List (Except Error Alias) × Aliases
  | [] => ([], aliases)
  | table :: rest =>
    let (answer, next) := aliases.request table
    let (answers, last) := next.serve rest
    (answer :: answers, last)

theorem mem_of_get? (known : aliases.get? table = some qualifier) : table ∈ aliases.tables :=
  List.mem_of_getElem? (get?_eq_some_iff.mp known)

theorem get?_eq_none_iff : aliases.get? table = none ↔ table ∉ aliases.tables := by
  refine ⟨not_mem_of_get?_eq_none, fun absent => Option.eq_none_iff_forall_ne_some.mpr ?_⟩
  exact fun qualifier known => absent (mem_of_get? known)

/-- What a request comes to: the alias that the table has, the next one, or a failure if all are
taken. -/
inductive Requested (before : Aliases) (table : Table) : Except Error Alias → Aliases → Prop where
  | known {qualifier : Alias} (has : before.get? table = some qualifier) :
      Requested before table (.ok qualifier) before
  | new {qualifier : Alias} {after : Aliases} (absent : table ∉ before.tables)
      (room : before.tables.length < capacity) (next : qualifier.code.toNat = before.tables.length)
      (pushed : after.tables = before.tables ++ [table]) :
      Requested before table (.ok qualifier) after
  | full (absent : table ∉ before.tables) (full : before.tables.length = capacity) :
      Requested before table (.error (.aliasCapacityExceeded capacity)) before

theorem requested (aliases : Aliases) (table : Table) :
    aliases.Requested table (aliases.request table).1 (aliases.request table).2 := by
  unfold request aliasFor
  split
  · rename_i served
    split at served
    · rename_i known
      cases served
      exact .known known
    · rename_i absent
      split at served
      · rename_i room
        cases served
        exact .new (not_mem_of_get?_eq_none absent) room (toNat_toUInt8 (Nat.le_refl _)) rfl
      · cases served
  · rename_i failed
    split at failed
    · cases failed
    · rename_i absent
      split at failed
      · cases failed
      · rename_i noRoom
        cases failed
        have atMost := aliases.length_le
        exact .full (not_mem_of_get?_eq_none absent) (by omega)

def answer (aliases : Aliases) (table : Table) : Except Error Alias :=
  match aliases.get? table with
  | some qualifier => .ok qualifier
  | none => .error (.aliasCapacityExceeded capacity)

theorem Extends.eq_of_full (extended : before.Extends after)
    (full : before.tables.length = capacity) : after.tables = before.tables := by
  have atMost := after.length_le
  exact (extended.eq_of_length_le (by omega)).symm

namespace Requested

variable (requested : Requested before table result after)

include requested

theorem extend : before.Extends after := by
  cases requested with
  | known | full => exact List.prefix_rfl
  | new _ _ _ pushed =>
    rw [Extends, pushed]
    exact List.prefix_append _ _

theorem answer_eq {last : Aliases} (extended : after.Extends last) :
    result = last.answer table := by
  cases requested with
  | known has => rw [Aliases.answer, extended.get? has]
  | new _ _ next pushed =>
    have placed : after.get? table = some _ := get?_eq_some_iff.mpr (by rw [pushed, next]; simp)
    rw [Aliases.answer, extended.get? placed]
  | full absent full =>
    have none : last.get? table = none := by
      rw [get?_eq_none_iff, extended.eq_of_full full]
      exact absent
    rw [Aliases.answer, none]

theorem take_eraseDups (rest : List Table) :
    (after.tables ++ rest).eraseDups.take capacity =
      (before.tables ++ table :: rest).eraseDups.take capacity := by
  cases requested with
  | known has => rw [List.eraseDups_append_of_mem (mem_of_get? has)]
  | new _ _ _ pushed => rw [pushed, List.append_assoc, List.singleton_append]
  | full _ full =>
    simp only [List.eraseDups_append_of_nodup before.nodup, List.take_left' full]

end Requested

theorem serve_extends (aliases : Aliases) (calls : List Table) :
    aliases.Extends (aliases.serve calls).2 := by
  induction calls generalizing aliases with
  | nil => exact List.prefix_rfl
  | cons table rest ih => exact (aliases.requested table).extend.trans (ih _)

/-- The tables are the distinct ones in the order of their first calls, as many as there are
aliases. -/
theorem serve_tables (aliases : Aliases) (calls : List Table) :
    (aliases.serve calls).2.tables = (aliases.tables ++ calls).eraseDups.take capacity := by
  induction calls generalizing aliases with
  | nil =>
    rw [List.append_nil, List.eraseDups_of_nodup aliases.nodup,
      List.take_of_length_le aliases.length_le]
    rfl
  | cons table rest ih => exact (ih _).trans ((aliases.requested table).take_eraseDups rest)

theorem serve_answers (aliases : Aliases) (calls : List Table) :
    (aliases.serve calls).1 = calls.map (aliases.serve calls).2.answer := by
  induction calls generalizing aliases with
  | nil => rfl
  | cons table rest ih =>
    have extended := (aliases.request table).2.serve_extends rest
    exact congrArg₂ List.cons ((aliases.requested table).answer_eq extended) (ih _)

end TypedSql.Aliases
