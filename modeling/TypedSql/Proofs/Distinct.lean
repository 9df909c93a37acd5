import Mathlib.Data.List.Nodup

namespace TypedSql.List

variable {α : Type} [BEq α] [LawfulBEq α] {items : List α} {item : α}

theorem eraseDups_of_nodup (distinct : items.Nodup) : items.eraseDups = items := by
  induction items with
  | nil => rfl
  | cons first rest ih =>
    obtain ⟨absent, distinct⟩ := List.nodup_cons.mp distinct
    have others : ∀ other ∈ rest, (!other == first) = true := by
      intro other member
      simpa using fun same : other = first => absent (same ▸ member)
    rw [List.eraseDups_cons, List.filter_eq_self.mpr others, ih distinct]

theorem eraseDups_append_of_nodup (distinct : items.Nodup) (rest : List α) :
    (items ++ rest).eraseDups = items ++ (rest.removeAll items).eraseDups := by
  rw [List.eraseDups_append, eraseDups_of_nodup distinct]

/-- An item that comes again is passed over. -/
theorem eraseDups_append_of_mem (member : item ∈ items) (rest : List α) :
    (items ++ item :: rest).eraseDups = (items ++ rest).eraseDups := by
  have passed : (item :: rest).removeAll items = rest.removeAll items := by
    simp [List.removeAll, member]
  rw [List.eraseDups_append, List.eraseDups_append, passed]

theorem eraseDups_concat (items : List α) (item : α) :
    (items ++ [item]).eraseDups =
      if item ∈ items then items.eraseDups else items.eraseDups ++ [item] := by
  split
  · rename_i known
    rw [eraseDups_append_of_mem known, List.append_nil]
  · rename_i new
    have only : [item].removeAll items = [item] := by simpa [List.removeAll] using new
    rw [List.eraseDups_append, only]
    rfl

end TypedSql.List
