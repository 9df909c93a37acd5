import Mathlib.Data.Finset.Card
import Mathlib.Logic.Function.Basic
import TypedSql.Views

namespace TypedSql.Store

variable {store : Store} {output : Table}

/-- No output type has two views. -/
def Distinct (store : Store) : Prop :=
  (store.entries.map Prod.fst).Nodup

theorem get?_remove (store : Store) (output : Table) :
    (store.remove output).get? = Function.update store.get? output none := by
  funext other
  rw [Function.update_apply]
  obtain ⟨entries⟩ := store
  unfold get? remove
  induction entries with
  | nil => simp
  | cons entry rest ih =>
    obtain ⟨table, view⟩ := entry
    by_cases removed : table = output
    · rw [List.filter_cons_of_neg (by simpa using removed), ih]
      by_cases asked : other = output
      · rw [if_pos asked, if_pos asked]
      · rw [if_neg asked, if_neg asked, List.lookup_cons, removed, beq_false_of_ne asked]
    · rw [List.filter_cons_of_pos (by simpa using removed), List.lookup_cons, List.lookup_cons, ih]
      by_cases found : other = table
      · simp [found, removed]
      · rw [beq_false_of_ne found]

theorem get?_insert (store : Store) (output : Table) (view : View) :
    (store.insert output view).get? = Function.update store.get? output (some view) := by
  funext other
  rw [insert, get?, List.lookup_cons, ← get?, get?_remove]
  by_cases same : other = output
  · simp [same]
  · rw [beq_false_of_ne same, Function.update_of_ne same, Function.update_of_ne same]

theorem distinct_empty : empty.Distinct :=
  List.nodup_nil

theorem Distinct.remove (distinct : store.Distinct) (output : Table) :
    (store.remove output).Distinct :=
  (List.filter_sublist.map Prod.fst).nodup distinct

theorem Distinct.insert (distinct : store.Distinct) (output : Table) (view : View) :
    (store.insert output view).Distinct := by
  refine List.nodup_cons.mpr ⟨?_, distinct.remove output⟩
  intro member
  obtain ⟨entry, kept, same⟩ := List.mem_map.mp member
  have different := (List.mem_filter.mp kept).2
  simp [same] at different

theorem get?_ne_none_iff : store.get? output ≠ none ↔ output ∈ store.entries.map Prod.fst := by
  rw [← Option.isSome_iff_ne_none, get?, List.lookup_isSome_iff, List.mem_map]
  simp only [beq_iff_eq, @eq_comm Table output]

/-- The size of a store is the number of the types that have a view. -/
theorem size_eq_card (distinct : store.Distinct) :
    ∃ types : Finset Table, (∀ output, output ∈ types ↔ store.get? output ≠ none) ∧
      store.size = types.card := by
  refine ⟨(store.entries.map Prod.fst).toFinset, fun output => ?_, ?_⟩
  · rw [List.mem_toFinset, get?_ne_none_iff]
  · rw [List.toFinset_card_of_nodup distinct, List.length_map, size]

theorem size_eq_zero_iff : store.size = 0 ↔ ∀ output, store.get? output = none := by
  rw [size, List.length_eq_zero_iff]
  constructor
  · intro none output
    rw [get?, none]
    rfl
  · intro missing
    refine List.eq_nil_iff_forall_not_mem.mpr fun entry member => ?_
    exact get?_ne_none_iff.mpr (List.mem_map_of_mem member) (missing entry.1)

end TypedSql.Store
