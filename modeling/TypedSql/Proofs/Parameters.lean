import Mathlib.Data.List.Nodup
import TypedSql.Parameters

namespace TypedSql.Parameters

theorem numbered_injective {column : String} {first second : Nat}
    (same : numbered column first = numbered column second) : first = second := by
  have text : first.repr = second.repr := (String.append_right_inj column).mp same
  have digits : Nat.toDigits 10 first = Nat.toDigits 10 second := by
    simpa only [Nat.toList_repr] using congrArg String.toList text
  rw [← Nat.ofDigitChars_ten_toDigits (n := first), digits, Nat.ofDigitChars_ten_toDigits]

/-- The first free number is found as soon as one lies within the attempts. -/
theorem freeNumber_free {taken : List String} {column : String} {number attempts : Nat}
    (free : ∃ k, number ≤ k ∧ k ≤ number + attempts ∧ numbered column k ∉ taken) :
    numbered column (freeNumber taken column number attempts) ∉ taken := by
  induction attempts generalizing number with
  | zero =>
    obtain ⟨k, low, high, absent⟩ := free
    have same : k = number := by omega
    exact same ▸ absent
  | succ attempts ih =>
    unfold freeNumber
    split
    · rename_i present
      obtain ⟨k, low, high, absent⟩ := free
      have other : k ≠ number := by
        rintro rfl
        exact absent (List.contains_iff_mem.mp present)
      exact ih ⟨k, by omega, by omega, absent⟩
    · rename_i absent
      exact fun member => absent (List.contains_iff_mem.mpr member)

theorem le_freeNumber (taken : List String) (column : String) (number attempts : Nat) :
    number ≤ freeNumber taken column number attempts := by
  induction attempts generalizing number with
  | zero => exact Nat.le_refl number
  | succ attempts ih =>
    unfold freeNumber
    split
    · exact Nat.le_trans (Nat.le_succ number) (ih (number + 1))
    · exact Nat.le_refl number

/-- Of one more candidate than there are names, one is no name. -/
theorem exists_free (taken : List String) (column : String) (number : Nat) :
    ∃ k, number ≤ k ∧ k ≤ number + taken.length ∧ numbered column k ∉ taken := by
  by_contra none
  have allTaken : (List.range' number (taken.length + 1)).map (numbered column) ⊆ taken := by
    intro name member
    obtain ⟨k, inRange, rfl⟩ := List.mem_map.mp member
    have bounds := List.mem_range'_1.mp inRange
    by_contra absent
    exact none ⟨k, bounds.1, by omega, absent⟩
  have distinct : ((List.range' number (taken.length + 1)).map (numbered column)).Nodup :=
    List.Nodup.map (fun _ _ same => numbered_injective same) List.nodup_range'
  have tooMany := distinct.length_le_of_subset allTaken
  simp only [List.length_map, List.length_range'] at tooMany
  omega

/-- Between two states of parameters these entries were recorded, under fresh names. -/
structure Extends (before after : Parameters) (added : List Parameter) : Prop where
  entries : after.entries = before.entries ++ added
  counter : before.counter ≤ after.counter
  nodup : before.names.Nodup → after.names.Nodup

theorem Extends.refl (parameters : Parameters) : Extends parameters parameters [] :=
  ⟨by simp, Nat.le_refl _, id⟩

theorem Extends.trans {before middle after : Parameters} {first second : List Parameter}
    (left : Extends before middle first) (right : Extends middle after second) :
    Extends before after (first ++ second) where
  entries := by rw [right.entries, left.entries, List.append_assoc]
  counter := Nat.le_trans left.counter right.counter
  nodup := fun distinct => right.nodup (left.nodup distinct)

theorem Extends.names {before after : Parameters} {added : List Parameter}
    (extends_ : Extends before after added) :
    after.names = before.names ++ added.map Parameter.name := by
  simp [Parameters.names, extends_.entries]

theorem allocate_fresh (parameters : Parameters) (column : String) (value : Value) :
    (parameters.allocate column value).1 ∉ parameters.names :=
  freeNumber_free (exists_free parameters.names column parameters.counter)

theorem allocate_extends (parameters : Parameters) (column : String) (value : Value) :
    Extends parameters (parameters.allocate column value).2
      [⟨(parameters.allocate column value).1, value⟩] where
  entries := rfl
  counter := Nat.le_succ_of_le (le_freeNumber _ _ _ _)
  nodup := by
    intro distinct
    have fresh := allocate_fresh parameters column value
    have names : (parameters.allocate column value).2.names =
        parameters.names ++ [(parameters.allocate column value).1] := by
      simp [Parameters.names, allocate]
    rw [names, List.nodup_append]
    refine ⟨distinct, by simp, ?_⟩
    rintro _ member _ new rfl
    exact fresh (List.mem_singleton.mp new ▸ member)

end TypedSql.Parameters
