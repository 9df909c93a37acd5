import TypedSql.Proofs.Distinct
import TypedSql.Proofs.Parameters.Index

namespace TypedSql

namespace Parameters

inductive Operation where
  | allocate (column : String) (value : Value)
  | bind (name : String) (value : Value)

def perform (parameters : Parameters) : Operation → Parameter × Parameters
  | .allocate column value =>
    let (name, next) := parameters.allocate column value
    (⟨name, value⟩, next)
  | .bind name value => (⟨name, value⟩, parameters.bind name value)

def run (parameters : Parameters) : List Operation → List Parameter × Parameters
  | [] => ([], parameters)
  | operation :: rest =>
    let (recorded, next) := parameters.perform operation
    let (others, last) := next.run rest
    (recorded :: others, last)

namespace Indexed

/-- An allocation may make one attempt more than there are names. -/
def perform (state : Indexed) : Operation → Option (Parameter × Indexed)
  | .allocate column value => do
    let (name, next) ← state.allocate column value (state.entries.length + 1)
    return (⟨name, value⟩, next)
  | .bind name value => do
    return (⟨name, value⟩, ← state.bind name value)

def run (state : Indexed) : List Operation → Option (List Parameter × Indexed)
  | [] => some ([], state)
  | operation :: rest => do
    let (recorded, next) ← state.perform operation
    let (others, last) ← next.run rest
    return (recorded :: others, last)

end Indexed

structure Allocates (before : Parameters) (column : String) (value : Value) (number : Nat) :
    Prop where
  least : IsLeastFree before.names column before.counter number
  attempts : number < before.counter + (before.entries.length + 1)
  result : before.allocate column value = (numbered column number,
    ⟨before.entries ++ [⟨numbered column number, value⟩], number + 1⟩)

theorem allocates (parameters : Parameters) (column : String) (value : Value) :
    parameters.Allocates column value (parameters.freshNumber column) where
  least := isLeastFree_freshNumber parameters column
  attempts := by
    have bound := (isLeastFree_freshNumber parameters column).le_add_length
    rw [names, List.length_map] at bound
    omega
  result := rfl

theorem entries_perform (parameters : Parameters) (operation : Operation) :
    (parameters.perform operation).2.entries =
      (parameters.bind (parameters.perform operation).1.name
        (parameters.perform operation).1.value).entries := by
  cases operation with
  | allocate column value =>
    have fresh := allocate_fresh parameters column value
    simp only [perform, bind_of_not_mem fresh]
    rfl
  | bind name value => rfl

theorem counter_le_perform (parameters : Parameters) (operation : Operation) :
    parameters.counter ≤ (parameters.perform operation).2.counter := by
  cases operation with
  | allocate column value =>
    exact (allocate_extends parameters column value).counter
  | bind name value => exact Nat.le_of_eq (parameters.counter_bind name value).symm

theorem counter_le_run (parameters : Parameters) (operations : List Operation) :
    parameters.counter ≤ (parameters.run operations).2.counter := by
  induction operations generalizing parameters with
  | nil => exact Nat.le_refl _
  | cons operation rest ih =>
    exact Nat.le_trans (parameters.counter_le_perform operation) (ih _)

/-- Each name stands where it was recorded first, with the value that was recorded last. -/
structure Holds (parameters : Parameters) (recorded : List Parameter) : Prop where
  names : parameters.names = (recorded.map Parameter.name).eraseDups
  values : ∀ name, parameters.get? name =
    (recorded.reverse.find? (·.name == name)).map Parameter.value

theorem holds_empty : empty.Holds [] :=
  ⟨rfl, fun _ => rfl⟩

namespace Holds

variable {parameters : Parameters} {recorded : List Parameter}

theorem mem_names_iff (holds : parameters.Holds recorded) (name : String) :
    name ∈ parameters.names ↔ name ∈ recorded.map Parameter.name := by
  rw [holds.names, List.mem_eraseDups]

theorem bind (holds : parameters.Holds recorded) (entry : Parameter) :
    (parameters.bind entry.name entry.value).Holds (recorded ++ [entry]) where
  names := by
    rw [names_bind, List.map_append, List.map_singleton, List.eraseDups_concat, ← holds.names]
    simp only [holds.mem_names_iff]
  values name := by
    rw [get?_bind, List.reverse_append, List.reverse_singleton, List.singleton_append,
      List.find?_cons, holds.values]
    by_cases same : name = entry.name
    · simp [same]
    · have other : (entry.name == name) = false := by simpa using Ne.symm same
      simp [same, other]

theorem perform (holds : parameters.Holds recorded) (operation : Operation) :
    (parameters.perform operation).2.Holds (recorded ++ [(parameters.perform operation).1]) := by
  have bound := holds.bind (parameters.perform operation).1
  have entries := parameters.entries_perform operation
  constructor
  · rw [Parameters.names, entries]
    exact bound.names
  · intro name
    rw [get?, entries]
    exact bound.values name

theorem run (holds : parameters.Holds recorded) (operations : List Operation) :
    (parameters.run operations).2.Holds (recorded ++ (parameters.run operations).1) := by
  induction operations generalizing parameters recorded with
  | nil => simpa [Parameters.run] using holds
  | cons operation rest ih =>
    have rest := ih (holds.perform operation)
    rw [List.append_assoc] at rest
    exact rest

end Holds

namespace Indexed.Sound

variable {state : Indexed}

theorem perform (sound : state.Sound) (operation : Operation) :
    ∃ next, state.perform operation = some ((state.parameters.perform operation).1, next) ∧
      next.Sound ∧ next.parameters = (state.parameters.perform operation).2 := by
  cases operation with
  | allocate column value =>
    have enough := (state.parameters.allocates column value).attempts
    obtain ⟨next, made, soundNext, same⟩ := sound.allocate_of_lt enough value
    have made : state.allocate column value (state.entries.length + 1) = _ := made
    exact ⟨next, by simp [Indexed.perform, made, Parameters.perform], soundNext, same⟩
  | bind name value =>
    obtain ⟨next, made, soundNext, same⟩ := sound.bind_eq name value
    exact ⟨next, by simp [Indexed.perform, made, Parameters.perform], soundNext, same⟩

theorem run (sound : state.Sound) (operations : List Operation) :
    ∃ last, state.run operations = some ((state.parameters.run operations).1, last) ∧
      last.Sound ∧ last.parameters = (state.parameters.run operations).2 := by
  induction operations generalizing state with
  | nil => exact ⟨state, rfl, sound, rfl⟩
  | cons operation rest ih =>
    obtain ⟨next, made, soundNext, same⟩ := sound.perform operation
    obtain ⟨last, ran, soundLast, sameLast⟩ := ih soundNext
    rw [same] at ran sameLast
    exact ⟨last, by simp [Indexed.run, made, ran, Parameters.run], soundLast, sameLast⟩

end Indexed.Sound

structure Binds (before : Parameters) (name : String) (value : Value) : Prop where
  counter : (before.bind name value).counter = before.counter
  entries : name ∉ before.names ∧
      (before.bind name value).entries = before.entries ++ [⟨name, value⟩] ∨
    ∃ place, before.names[place]? = some name ∧
      (before.bind name value).entries = before.entries.set place ⟨name, value⟩

theorem binds {parameters : Parameters} (distinct : parameters.names.Nodup) (name : String)
    (value : Value) : parameters.Binds name value where
  counter := parameters.counter_bind name value
  entries := by
    by_cases present : name ∈ parameters.names
    · obtain ⟨place, known⟩ := List.mem_iff_getElem?.mp present
      exact .inr ⟨place, known, by rw [bind_of_getElem? distinct known]⟩
    · exact .inl ⟨present, by rw [bind_of_not_mem present]⟩

/-- The index finds the names at their places and nothing else, so that looking up a name in it
gives what stands in the list. An allocation comes to an end as soon as it may make enough
attempts. -/
structure Indexed.Agrees (state : Indexed) (parameters : Parameters) : Prop where
  entries : state.entries = parameters.entries
  counter : state.counter = parameters.counter
  index : ∀ name place, state.index name = some place ↔ parameters.names[place]? = some name
  contains : ∀ name, state.contains name = parameters.contains name
  get? : ∀ name, state.get? name = some (parameters.get? name)
  allocates : ∀ column value attempts, (state.allocate column value attempts).isSome = true ↔
    parameters.freshNumber column < parameters.counter + attempts

theorem Indexed.Sound.agrees {state : Indexed} (sound : state.Sound) :
    state.Agrees state.parameters where
  entries := rfl
  counter := rfl
  index := sound
  contains := sound.contains_eq
  get? := sound.get?_eq
  allocates := sound.isSome_allocate

/-- Whatever is allocated and bound, no name stands twice: the names stand in the order in which
they were first recorded, each with the value recorded last, and the index agrees with them. An
allocation takes the least number that makes a free name and is found in as many attempts as there
are names and one more. Binding changes one value at most, and the counter never goes back. -/
theorem names_recorded_once (operations : List Operation) :
    let recorded := (empty.run operations).1
    let parameters := (empty.run operations).2
    parameters.names.Nodup ∧ parameters.Holds recorded ∧
      (∀ name, parameters.contains name = true ↔ name ∈ recorded.map Parameter.name) ∧
      (∃ state, Indexed.empty.run operations = some (recorded, state) ∧ state.Agrees parameters) ∧
      (∀ column value, parameters.Allocates column value (parameters.freshNumber column)) ∧
      (∀ name value, parameters.Binds name value) ∧
      ∀ more, parameters.counter ≤ (parameters.run more).2.counter := by
  intro recorded parameters
  obtain ⟨state, ran, sound, same⟩ := Indexed.sound_empty.run operations
  have same : state.parameters = parameters := same
  have distinct : parameters.names.Nodup := same ▸ sound.nodup
  have holds : parameters.Holds recorded := holds_empty.run operations
  refine ⟨distinct, holds, ?_, ⟨state, ran, same ▸ sound.agrees⟩, parameters.allocates,
    binds distinct, parameters.counter_le_run⟩
  intro name
  rw [contains_iff, holds.mem_names_iff]

/-- The number 1 is passed over, since the name that it makes is bound already. -/
example : ((empty.run [.allocate "A" .null, .bind "A1" (.int32 1), .allocate "A" .null,
    .bind "A1" (.int32 2)]).2.entries.map Parameter.name) = ["A0", "A1", "A2"] := by
  decide

end Parameters

end TypedSql
