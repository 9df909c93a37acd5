import Mathlib.Data.List.Basic

namespace TypedSql.Text

variable {α : Type} {among : α → Bool} {run rest : List α}

/-- What follows does not go on with the run of such characters before it. -/
def Ends (among : α → Bool) (rest : List α) : Prop :=
  ∀ c, rest.head? = some c → among c = false

theorem ends_nil : Ends among [] := by
  rintro c ⟨⟩

theorem ends_cons {c : α} (outside : among c = false) : Ends among (c :: rest) := by
  rintro _ ⟨⟩
  exact outside

theorem takeWhile_run (inside : ∀ c ∈ run, among c) (ends : Ends among rest) :
    (run ++ rest).takeWhile among = run := by
  rw [List.takeWhile_append_of_pos inside]
  cases rest with
  | nil => simp
  | cons c rest => simp [ends c rfl]

theorem dropWhile_run (inside : ∀ c ∈ run, among c) (ends : Ends among rest) :
    (run ++ rest).dropWhile among = rest := by
  rw [List.dropWhile_append_of_pos inside]
  cases rest with
  | nil => rfl
  | cons c rest => simp [ends c rfl]

end TypedSql.Text
