import TypedSql.Proofs.Aliases.Serving

namespace TypedSql.Aliases

theorem ofNat_code {place : Nat} {qualifier : Alias} (same : qualifier.code.toNat = place) :
    (⟨place.toUInt8⟩ : Alias) = qualifier := by
  simp [← same]

theorem toList_of_push {before after : Aliases} {table : Table} {qualifier : Alias}
    (next : qualifier.code.toNat = before.tables.length)
    (pushed : after.tables = before.tables ++ [table]) :
    after.toList = before.toList ++ [(qualifier, table)] := by
  simp only [toList, pushed, List.zipIdx_append, List.map_append, List.zipIdx_singleton,
    List.map_singleton, Nat.zero_add, ofNat_code next]

theorem toList_prefix {before after : Aliases} (extended : before.Extends after) :
    before.toList <+: after.toList := by
  obtain ⟨more, split⟩ := extended
  rw [toList, toList, ← split, List.zipIdx_append, List.map_append]
  exact List.prefix_append _ _

/-- The aliases as they are kept: each stands beside its table from the call on that gave it out. -/
structure Register where
  entries : List (Alias × Table)

namespace Register

def empty : Register :=
  ⟨[]⟩

def get? (register : Register) (table : Table) : Option Alias :=
  (register.entries.find? fun entry => entry.2 = table).map Prod.fst

/-- A new table gets the number of entries, cut to 8 bits. -/
def aliasFor (register : Register) (table : Table) : Except Error Alias × Register :=
  match register.get? table with
  | some qualifier => (.ok qualifier, register)
  | none =>
    if capacity ≤ register.entries.length then
      (.error (.aliasCapacityExceeded capacity), register)
    else
      let qualifier := ⟨register.entries.length.toUInt8⟩
      (.ok qualifier, ⟨register.entries ++ [(qualifier, table)]⟩)

def run (register : Register) : List Table → List (Except Error Alias) × Register
  | [] => ([], register)
  | table :: rest =>
    let (answer, next) := register.aliasFor table
    let (answers, last) := next.run rest
    (answer :: answers, last)

end Register

variable (aliases : Aliases)

def register : Register :=
  ⟨aliases.toList⟩

theorem length_register : aliases.register.entries.length = aliases.tables.length := by
  simp [register, toList]

theorem get?_register (table : Table) : aliases.register.get? table = aliases.get? table := by
  apply Option.ext
  intro qualifier
  rw [← mem_toList_iff, Register.get?, Option.map_eq_some_iff]
  constructor
  · rintro ⟨⟨own, other⟩, found, rfl⟩
    have same : other = table := by simpa using List.find?_some found
    exact same ▸ List.mem_of_find?_eq_some found
  · intro member
    have isSome : (aliases.toList.find? fun entry => entry.2 = table).isSome = true :=
      List.find?_isSome.mpr ⟨_, member, by simp⟩
    obtain ⟨⟨own, other⟩, found⟩ := Option.isSome_iff_exists.mp isSome
    have same : other = table := by simpa using List.find?_some found
    subst same
    have first := mem_toList_iff.mp (List.mem_of_find?_eq_some found)
    have second := mem_toList_iff.mp member
    exact ⟨(own, other), found, Option.some.inj (first.symm.trans second)⟩

/-- The register is always that of the aliases. -/
theorem aliasFor_register (table : Table) :
    aliases.register.aliasFor table =
      ((aliases.request table).1, (aliases.request table).2.register) := by
  unfold Register.aliasFor
  rw [get?_register, length_register]
  have came := aliases.requested table
  revert came
  generalize (aliases.request table).1 = result, (aliases.request table).2 = after
  intro came
  cases came with
  | known has => rw [has]
  | @new qualifier after absent room next pushed =>
    rw [get?_eq_none_iff.mpr absent]
    simp only [Nat.not_le.mpr room, if_false, ofNat_code next]
    rw [register, register, toList_of_push next pushed]
  | full absent full =>
    rw [get?_eq_none_iff.mpr absent]
    simp only [full, Nat.le_refl, if_true]

theorem run_register (calls : List Table) :
    aliases.register.run calls = ((aliases.serve calls).1, (aliases.serve calls).2.register) := by
  induction calls generalizing aliases with
  | nil => rfl
  | cons table rest ih =>
    simp only [Register.run, aliasFor_register, ih]
    rfl

end TypedSql.Aliases
