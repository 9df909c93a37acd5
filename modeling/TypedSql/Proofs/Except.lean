import Mathlib.Data.List.Forall2
import TypedSql.Error

namespace TypedSql.Except

variable {ε α β : Type}

theorem bind_ok {step : Except ε α} {next : α → Except ε β} {result : β} :
    (step >>= next) = .ok result ↔ ∃ a, step = .ok a ∧ next a = .ok result := by
  cases step with
  | error => simp [bind, Except.bind]
  | ok a => simp [bind, Except.bind]

theorem bind_error {step : Except ε α} {next : α → Except ε β} {error : ε} :
    (step >>= next) = .error error ↔
      step = .error error ∨ ∃ a, step = .ok a ∧ next a = .error error := by
  cases step <;> simp [bind, Except.bind]

/-- A result is changed without an error. -/
theorem exists_bind_pure_error {step : Except ε α} {change : α → β} :
    (∃ error, (step >>= fun a => pure (change a)) = .error error) ↔ ∃ error, step = .error error := by
  cases step <;> simp [bind, Except.bind, pure, Except.pure]

/-- Steps with the same results fail alike. -/
theorem exists_error_iff {step other : Except ε α} (same : ∀ a, step = .ok a ↔ other = .ok a) :
    (∃ error, step = .error error) ↔ ∃ error, other = .error error := by
  cases step with
  | ok a => simp [(same a).mp rfl]
  | error error =>
    cases other with
    | ok a => cases (same a).mpr rfl
    | error other => simp

theorem mapError_ok {ε' : Type} {step : Except ε α} {change : ε → ε'} {result : α} :
    step.mapError change = .ok result ↔ step = .ok result := by
  cases step with
  | error => exact ⟨nofun, nofun⟩
  | ok a =>
    constructor
    · rintro ⟨⟩
      rfl
    · rintro ⟨⟩
      rfl

theorem map_ok {step : Except ε α} {change : α → β} {result : β} :
    step.map change = .ok result ↔ ∃ a, step = .ok a ∧ change a = result := by
  cases step <;> simp [Except.map]

theorem map_error {step : Except ε α} {change : α → β} {error : ε} :
    step.map change = .error error ↔ step = .error error := by
  cases step <;> simp [Except.map]

theorem mapM_ok {step : α → Except ε β} {value : α → β} {items : List α}
    (each : ∀ a ∈ items, step a = .ok (value a)) : items.mapM step = .ok (items.map value) := by
  induction items with
  | nil => rfl
  | cons first rest ih =>
    rw [List.mapM_cons, each first (by simp),
      ih fun a member => each a (List.mem_cons_of_mem first member)]
    rfl

theorem mem_of_mapM_ok {step : α → Except ε β} {items : List α} {results : List β} {b : β}
    (done : items.mapM step = .ok results) (member : b ∈ results) :
    ∃ a ∈ items, step a = .ok b := by
  induction items generalizing results with
  | nil =>
    cases done
    cases member
  | cons first rest ih =>
    rw [List.mapM_cons] at done
    obtain ⟨head, doneFirst, done⟩ := bind_ok.mp done
    obtain ⟨tail, doneRest, last⟩ := bind_ok.mp done
    cases last
    rcases List.mem_cons.mp member with rfl | later
    · exact ⟨first, by simp, doneFirst⟩
    · obtain ⟨a, listed, doneItem⟩ := ih doneRest later
      exact ⟨a, List.mem_cons_of_mem first listed, doneItem⟩

theorem mapM_ok_iff {step : α → Except ε β} {items : List α} {results : List β} :
    items.mapM step = .ok results ↔
      List.Forall₂ (fun item result => step item = .ok result) items results := by
  induction items generalizing results with
  | nil => cases results <;> simp [pure, Except.pure]
  | cons first rest ih =>
    rw [List.mapM_cons, bind_ok]
    simp only [bind_ok, ih]
    constructor
    · rintro ⟨head, done, tail, each, ⟨⟩⟩
      exact .cons done each
    · intro each
      obtain _ | ⟨done, each⟩ := each
      exact ⟨_, done, _, each, rfl⟩

/-- The error is that of the first item to fail. -/
def FirstFails (fails : α → ε → Prop) (items : List α) (error : ε) : Prop :=
  ∃ before item after, items = before ++ item :: after ∧
    (∀ earlier ∈ before, ∀ other, ¬ fails earlier other) ∧ fails item error

theorem mapM_error_iff {step : α → Except ε β} {items : List α} {error : ε} :
    items.mapM step = .error error ↔
      FirstFails (fun item error => step item = .error error) items error := by
  induction items with
  | nil => simp [FirstFails, pure, Except.pure]
  | cons first rest ih =>
    rw [List.mapM_cons, bind_error]
    simp only [bind_error, ih]
    constructor
    · rintro (failed | ⟨head, done, ⟨before, item, after, rfl, none, failed⟩ | ⟨_, _, ⟨⟩⟩⟩)
      · exact ⟨[], first, rest, rfl, nofun, failed⟩
      · refine ⟨first :: before, item, after, rfl, List.forall_mem_cons.mpr ⟨?_, none⟩, failed⟩
        simp [done]
    · rintro ⟨before, item, after, split, none, failed⟩
      obtain _ | ⟨head, before⟩ := before
      · cases split
        exact .inl failed
      · cases split
        obtain ⟨passed, none⟩ := List.forall_mem_cons.mp none
        cases done : step first with
        | error other => exact (passed other done).elim
        | ok result =>
          exact .inr ⟨result, rfl, .inl ⟨before, item, after, rfl, none, failed⟩⟩

theorem exists_mapM_error {step : α → Except ε β} {items : List α} :
    (∃ error, items.mapM step = .error error) ↔ ∃ a ∈ items, ∃ error, step a = .error error := by
  constructor
  · rintro ⟨error, failed⟩
    obtain ⟨before, item, after, rfl, _, stopped⟩ := mapM_error_iff.mp failed
    exact ⟨item, by simp, error, stopped⟩
  · rintro ⟨a, member, error, stopped⟩
    cases done : items.mapM step with
    | error other => exact ⟨other, rfl⟩
    | ok results =>
      have each := mapM_ok_iff.mp done
      obtain ⟨place, inRange, rfl⟩ := List.getElem_of_mem member
      have passed := each.get inRange (each.length_eq ▸ inRange)
      cases passed.symm.trans stopped

/-- Steps that fail in one way only fail in this way together. -/
theorem mapM_error {step : α → Except ε β} {error : ε} {items : List α}
    (each : ∀ a ∈ items, (∃ b, step a = .ok b) ∨ step a = .error error)
    (failed : ∃ a ∈ items, step a = .error error) : items.mapM step = .error error := by
  induction items with
  | nil =>
    obtain ⟨_, member, _⟩ := failed
    cases member
  | cons first rest ih =>
    rw [List.mapM_cons]
    rcases each first (by simp) with ⟨b, done⟩ | stopped
    · have later : ∃ a ∈ rest, step a = .error error := by
        obtain ⟨a, member, stopped⟩ := failed
        rcases List.mem_cons.mp member with rfl | member
        · cases done.symm.trans stopped
        · exact ⟨a, member, stopped⟩
      rw [done, ih (fun a member => each a (List.mem_cons_of_mem first member)) later]
      rfl
    · rw [stopped]
      rfl

end TypedSql.Except
