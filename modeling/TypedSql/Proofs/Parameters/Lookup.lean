import TypedSql.Proofs.Parameters

namespace TypedSql.Parameters

variable {parameters : Parameters} {name other : String}

theorem contains_iff : parameters.contains name = true ↔ name ∈ parameters.names :=
  List.contains_iff_mem

theorem get?_eq_none_iff : parameters.get? name = none ↔ name ∉ parameters.names := by
  simp [get?, names]

/-- If no name stands twice, the entry that stands anywhere under a name is the one that is
found. -/
theorem get?_of_getElem? (distinct : parameters.names.Nodup) {place : Nat} {value : Value}
    (found : parameters.entries[place]? = some ⟨name, value⟩) :
    parameters.get? name = some value := by
  have member := List.mem_of_getElem? found
  have isSome : (parameters.entries.find? (·.name == name)).isSome = true := by
    rw [List.find?_isSome]
    exact ⟨_, member, beq_self_eq_true name⟩
  obtain ⟨entry, isEntry⟩ := Option.isSome_iff_exists.mp isSome
  have named : entry.name = name := by simpa using List.find?_some isEntry
  have same : entry = ⟨name, value⟩ :=
    List.inj_on_of_nodup_map distinct (List.mem_of_find?_eq_some isEntry) member named
  rw [get?, isEntry, same]
  rfl

@[simp]
theorem counter_bind (parameters : Parameters) (name : String) (value : Value) :
    (parameters.bind name value).counter = parameters.counter := by
  unfold bind
  split <;> rfl

/-- A new name goes behind the others. -/
theorem bind_of_not_mem (absent : name ∉ parameters.names) (value : Value) :
    parameters.bind name value =
      { parameters with entries := parameters.entries ++ [⟨name, value⟩] } := by
  unfold bind
  rw [if_neg fun present => absent (contains_iff.mp present)]

/-- What becomes of an entry when a value is recorded under a name there is. -/
def replace (name : String) (value : Value) (entry : Parameter) : Parameter :=
  if entry.name = name then ⟨name, value⟩ else entry

@[simp]
theorem name_replace (name : String) (value : Value) (entry : Parameter) :
    (replace name value entry).name = entry.name := by
  unfold replace
  split
  · rename_i same
    exact same.symm
  · rfl

theorem bind_of_mem (present : name ∈ parameters.names) (value : Value) :
    parameters.bind name value =
      { parameters with entries := parameters.entries.map (replace name value) } := by
  unfold bind
  rw [if_pos (contains_iff.mpr present)]
  simp only [beq_iff_eq]
  rfl

/-- Where a name stands its value is replaced, and nothing else is. -/
theorem bind_of_getElem? (distinct : parameters.names.Nodup) {place : Nat}
    (known : parameters.names[place]? = some name) (value : Value) :
    parameters.bind name value =
      { parameters with entries := parameters.entries.set place ⟨name, value⟩ } := by
  rw [bind_of_mem (List.mem_of_getElem? known)]
  congr 1
  apply List.ext_getElem
  · simp
  · intro position inMapped inSet
    have inRange : position < parameters.entries.length := by simpa using inMapped
    have inNames : position < parameters.names.length := by simpa [names] using inRange
    have here : parameters.entries[position].name = name ↔ place = position := by
      have same : parameters.entries[position].name = parameters.names[position] := by
        simp [names]
      obtain ⟨placeInRange, rfl⟩ := List.getElem?_eq_some_iff.mp known
      rw [same, distinct.getElem_inj_iff, eq_comm]
    rw [List.getElem_map, List.getElem_set, replace]
    simp only [here]

theorem names_set {place : Nat} (isName : parameters.names[place]? = some name) (value : Value) :
    (parameters.entries.set place ⟨name, value⟩).map Parameter.name = parameters.names := by
  obtain ⟨inRange, rfl⟩ := List.getElem?_eq_some_iff.mp isName
  rw [List.map_set]
  exact List.set_getElem_self inRange

theorem names_bind (parameters : Parameters) (name : String) (value : Value) :
    (parameters.bind name value).names =
      if name ∈ parameters.names then parameters.names else parameters.names ++ [name] := by
  split
  · rename_i present
    rw [bind_of_mem present]
    simp [names]
  · rename_i absent
    rw [bind_of_not_mem absent]
    simp [names]

/-- Under a name stands what was recorded last. -/
theorem get?_bind (parameters : Parameters) (name other : String) (value : Value) :
    (parameters.bind name value).get? other =
      if other = name then some value else parameters.get? other := by
  by_cases present : name ∈ parameters.names
  · have kept : (fun entry : Parameter => entry.name == other) ∘ replace name value =
        fun entry => entry.name == other := by
      funext entry
      simp
    rw [bind_of_mem present, get?, List.find?_map, kept, get?]
    split
    · rename_i same
      subst same
      obtain ⟨found, isValue⟩ := Option.ne_none_iff_exists'.mp
        (mt get?_eq_none_iff.mp (not_not_intro present))
      obtain ⟨entry, isEntry, _⟩ := Option.map_eq_some_iff.mp isValue
      have named : entry.name = other := by simpa using List.find?_some isEntry
      simp [isEntry, replace, named]
    · rename_i different
      cases isEntry : parameters.entries.find? (·.name == other) with
      | none => rfl
      | some entry =>
        have named : entry.name = other := by simpa using List.find?_some isEntry
        simp [replace, named, different]
  · rw [bind_of_not_mem present, get?, get?, List.find?_append]
    split
    · rename_i same
      subst same
      have none : parameters.entries.find? (·.name == other) = none := by
        simpa [get?] using get?_eq_none_iff.mpr present
      simp [none]
    · rename_i different
      simp [Ne.symm different]

end TypedSql.Parameters
