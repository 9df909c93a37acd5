import Mathlib.Logic.Function.Basic
import TypedSql.Proofs.Parameters.Lookup

namespace TypedSql

namespace Parameters

/-- The least number from `number` on that makes a name of the column that is not taken. -/
structure IsLeastFree (taken : List String) (column : String) (number free : Nat) : Prop where
  le : number ≤ free
  not_mem : numbered column free ∉ taken
  least : ∀ other, number ≤ other → other < free → numbered column other ∈ taken

/-- One more attempt than there are names is enough. -/
theorem IsLeastFree.le_add_length {taken : List String} {column : String} {number free : Nat}
    (isFree : IsLeastFree taken column number free) : free ≤ number + taken.length := by
  obtain ⟨other, low, high, absent⟩ := exists_free taken column number
  by_contra beyond
  have earlier : other < free := by omega
  exact absent (isFree.least other low earlier)

theorem IsLeastFree.unique {taken : List String} {column : String} {number first second : Nat}
    (isFirst : IsLeastFree taken column number first)
    (isSecond : IsLeastFree taken column number second) : first = second := by
  rcases Nat.lt_trichotomy first second with less | same | greater
  · exact absurd (isSecond.least first isFirst.le less) isFirst.not_mem
  · exact same
  · exact absurd (isFirst.least second isSecond.le greater) isSecond.not_mem

theorem mem_of_lt_freeNumber {taken : List String} {column : String} {number attempts other : Nat}
    (low : number ≤ other) (high : other < freeNumber taken column number attempts) :
    numbered column other ∈ taken := by
  induction attempts generalizing number with
  | zero =>
    rw [freeNumber] at high
    omega
  | succ attempts ih =>
    unfold freeNumber at high
    split at high
    · rename_i present
      by_cases first : other = number
      · subst first
        exact List.contains_iff_mem.mp present
      · have later : number + 1 ≤ other := by omega
        exact ih later high
    · omega

/-- The number that the next parameter of a column gets. -/
def freshNumber (parameters : Parameters) (column : String) : Nat :=
  freeNumber parameters.names column parameters.counter parameters.names.length

theorem isLeastFree_freshNumber (parameters : Parameters) (column : String) :
    IsLeastFree parameters.names column parameters.counter (parameters.freshNumber column) where
  le := le_freeNumber _ _ _ _
  not_mem := freeNumber_free (exists_free _ _ _)
  least := fun _ => mem_of_lt_freeNumber

/-- Parameters with an index of the places of their names. A place behind the last entry is an
error, and so is a search that runs out of attempts: both are `none`. -/
structure Indexed where
  entries : List Parameter
  index : String → Option Nat
  counter : Nat

namespace Indexed

def empty : Indexed :=
  ⟨[], fun _ => none, 0⟩

def contains (state : Indexed) (name : String) : Bool :=
  (state.index name).isSome

def get? (state : Indexed) (name : String) : Option (Option Value) :=
  match state.index name with
  | some place => state.entries[place]?.map fun entry => some entry.value
  | none => some none

/-- Puts an entry with a new name behind the others. -/
def push (state : Indexed) (name : String) (value : Value) : Indexed :=
  { state with
    entries := state.entries ++ [⟨name, value⟩]
    index := Function.update state.index name (some state.entries.length) }

/-- Counts up from a number until a name is not in the index. -/
def search (state : Indexed) (column : String) (number : Nat) : Nat → Option Nat
  | 0 => none
  | attempts + 1 =>
    if state.contains (numbered column number) then
      search state column (number + 1) attempts
    else
      some number

def allocate (state : Indexed) (column : String) (value : Value) (attempts : Nat) :
    Option (String × Indexed) := do
  let number ← state.search column state.counter attempts
  let name := numbered column number
  return (name, { state with counter := number + 1 }.push name value)

def bind (state : Indexed) (name : String) (value : Value) : Option Indexed :=
  match state.index name with
  | some place => do
    let entry ← state.entries[place]?
    return { state with entries := state.entries.set place { entry with value } }
  | none => return state.push name value

def parameters (state : Indexed) : Parameters :=
  ⟨state.entries, state.counter⟩

/-- The index has each name at its own place and nothing else. -/
def Sound (state : Indexed) : Prop :=
  ∀ name place, state.index name = some place ↔ state.parameters.names[place]? = some name

theorem sound_empty : empty.Sound := by
  intro name place
  simp [empty, parameters, names]

variable {state : Indexed}

theorem getElem?_concat_eq_some_iff {α : Type} {items : List α} {last item : α} {place : Nat} :
    (items ++ [last])[place]? = some item ↔
      items[place]? = some item ∨ place = items.length ∧ last = item := by
  rw [List.getElem?_append]
  split
  · rename_i inside
    have other : place ≠ items.length := by omega
    simp [other]
  · rename_i outside
    have none : items[place]? = none := List.getElem?_eq_none (by omega)
    rw [none, List.getElem?_singleton]
    have same : place - items.length = 0 ↔ place = items.length := by omega
    simp [same]

namespace Sound

theorem contains_iff (sound : state.Sound) (name : String) :
    state.contains name = true ↔ name ∈ state.parameters.names := by
  rw [contains, Option.isSome_iff_exists, List.mem_iff_getElem?]
  exact exists_congr (sound name)

theorem contains_eq (sound : state.Sound) (name : String) :
    state.contains name = state.parameters.contains name := by
  rw [Bool.eq_iff_iff, sound.contains_iff, Parameters.contains, List.contains_iff_mem]

/-- Two places of one name would both be what the index has for it. -/
theorem nodup (sound : state.Sound) : state.parameters.names.Nodup := by
  rw [List.nodup_iff_getElem?_ne_getElem?]
  intro first second less inRange same
  have isName := List.getElem?_eq_getElem (Nat.lt_trans less inRange)
  have atFirst := (sound _ first).mpr isName
  have atSecond := (sound _ second).mpr (same.symm.trans isName)
  have equal := Option.some.inj (atFirst.symm.trans atSecond)
  omega

theorem index_eq_none_iff (sound : state.Sound) {name : String} :
    state.index name = none ↔ name ∉ state.parameters.names := by
  rw [← sound.contains_iff, contains]
  simp

theorem getElem?_entries (sound : state.Sound) {name : String} {place : Nat}
    (known : state.index name = some place) :
    ∃ value, state.entries[place]? = some ⟨name, value⟩ := by
  have isName := (sound name place).mp known
  simp only [parameters, names, List.getElem?_map, Option.map_eq_some_iff] at isName
  obtain ⟨⟨_, value⟩, found, rfl⟩ := isName
  exact ⟨value, found⟩

/-- What the index finds is what stands in the list. -/
theorem get?_eq (sound : state.Sound) (name : String) :
    state.get? name = some (state.parameters.get? name) := by
  unfold get?
  cases known : state.index name with
  | none => rw [get?_eq_none_iff.mpr (sound.index_eq_none_iff.mp known)]
  | some place =>
    obtain ⟨value, found⟩ := sound.getElem?_entries known
    have isValue := get?_of_getElem? sound.nodup found
    simp [found, isValue]

theorem push (sound : state.Sound) {name : String} (absent : name ∉ state.parameters.names)
    (value : Value) (counter : Nat) : ({ state with counter }.push name value).Sound := by
  have length : state.parameters.names.length = state.entries.length := by
    simp [parameters, names]
  have after : ({ state with counter }.push name value).parameters.names =
      state.parameters.names ++ [name] := by
    simp [Indexed.push, parameters, names]
  intro other place
  rw [after, getElem?_concat_eq_some_iff, length, ← sound other place]
  simp only [Indexed.push]
  by_cases same : other = name
  · subst same
    rw [Function.update_self, sound.index_eq_none_iff.mpr absent]
    simp [eq_comm]
  · rw [Function.update_of_ne same]
    simp [Ne.symm same]

/-- A new value at the place of a name leaves the names as they are. -/
theorem set (sound : state.Sound) {place : Nat} {entry : Parameter}
    (found : state.entries[place]? = some entry) (value : Value) :
    ({ state with entries := state.entries.set place { entry with value } } : Indexed).Sound := by
  have isName : state.parameters.names[place]? = some entry.name := by
    simp [parameters, names, found]
  intro other position
  rw [sound other position]
  exact iff_of_eq (congrArg (·[position]? = some other) (names_set isName value).symm)

theorem search_eq_some_iff (sound : state.Sound) {column : String} {number attempts free : Nat} :
    state.search column number attempts = some free ↔
      IsLeastFree state.parameters.names column number free ∧ free < number + attempts := by
  induction attempts generalizing number with
  | zero =>
    rw [search]
    constructor
    · intro found
      cases found
    · rintro ⟨isFree, high⟩
      have low := isFree.le
      omega
  | succ attempts ih =>
    rw [search]
    split
    · rename_i present
      have taken := (sound.contains_iff _).mp present
      rw [ih]
      constructor
      · rintro ⟨isFree, high⟩
        refine ⟨⟨Nat.le_of_succ_le isFree.le, isFree.not_mem, fun other low less => ?_⟩, by omega⟩
        by_cases first : other = number
        · exact first ▸ taken
        · exact isFree.least other (by omega) less
      · rintro ⟨isFree, high⟩
        have other : free ≠ number := by
          rintro rfl
          exact isFree.not_mem taken
        have low := isFree.le
        exact ⟨⟨by omega, isFree.not_mem, fun other low => isFree.least other (by omega)⟩, by omega⟩
    · rename_i absent
      have isFree : IsLeastFree state.parameters.names column number number :=
        ⟨Nat.le_refl number, fun member => absent ((sound.contains_iff _).mpr member),
          fun other low less => by omega⟩
      constructor
      · intro found
        cases found
        exact ⟨isFree, by omega⟩
      · rintro ⟨isLeast, _⟩
        rw [isFree.unique isLeast]

/-- With as many attempts as the first free number needs, a value is recorded under its name. -/
theorem allocate_of_lt (sound : state.Sound) {column : String} {attempts : Nat}
    (enough : state.parameters.freshNumber column < state.counter + attempts) (value : Value) :
    ∃ next, state.allocate column value attempts =
        some ((state.parameters.allocate column value).1, next) ∧ next.Sound ∧
      next.parameters = (state.parameters.allocate column value).2 := by
  have isFree : IsLeastFree state.parameters.names column state.counter _ :=
    isLeastFree_freshNumber state.parameters column
  have found := sound.search_eq_some_iff.mpr ⟨isFree, enough⟩
  refine ⟨_, ?_, sound.push isFree.not_mem value _, rfl⟩
  simp only [Indexed.allocate, found]
  rfl

theorem isSome_allocate (sound : state.Sound) (column : String) (value : Value) (attempts : Nat) :
    (state.allocate column value attempts).isSome = true ↔
      state.parameters.freshNumber column < state.counter + attempts := by
  constructor
  · intro made
    obtain ⟨result, made⟩ := Option.isSome_iff_exists.mp made
    obtain ⟨free, found, _⟩ := Option.bind_eq_some_iff.mp made
    obtain ⟨isLeast, high⟩ := sound.search_eq_some_iff.mp found
    rw [(isLeastFree_freshNumber state.parameters column).unique isLeast]
    exact high
  · intro enough
    obtain ⟨next, made, _⟩ := sound.allocate_of_lt enough value
    rw [made]
    rfl

theorem bind_eq (sound : state.Sound) (name : String) (value : Value) :
    ∃ next, state.bind name value = some next ∧ next.Sound ∧
      next.parameters = state.parameters.bind name value := by
  unfold Indexed.bind
  cases known : state.index name with
  | none =>
    have absent := sound.index_eq_none_iff.mp known
    refine ⟨_, rfl, sound.push absent value state.counter, ?_⟩
    rw [bind_of_not_mem absent]
    rfl
  | some place =>
    obtain ⟨old, found⟩ := sound.getElem?_entries known
    have replaced := bind_of_getElem? sound.nodup ((sound name place).mp known) value
    exact ⟨_, by simp [found], sound.set found value, replaced.symm⟩

end Sound

end Indexed

end Parameters

end TypedSql
