import Mathlib.Data.List.Nodup
import TypedSql.Alias
import TypedSql.Proofs.Except
import TypedSql.Proofs.Parameters

namespace TypedSql

namespace Alias

theorem text_length_of_letter {qualifier : Alias} (letter : qualifier.code < 26) :
    qualifier.text.length = 1 := by
  simp [text, letter]

theorem text_length_of_number {qualifier : Alias} (number : ¬qualifier.code < 26) :
    1 < qualifier.text.length := by
  have digits : 0 < (toString qualifier.code.toNat).length := Nat.length_repr_pos
  simp only [text, number, if_false, String.length_append]
  have mark : "t".length = 1 := rfl
  omega

theorem toNat_letter :
    ∀ place < 26, (Char.ofNat ('a'.toNat + place)).toNat = 'a'.toNat + place := by
  decide

/-- Different aliases are spelled differently: a letter is no `t` with a number behind it. -/
theorem text_injective {first second : Alias} (same : first.text = second.text) :
    first = second := by
  have codes : first.code.toNat = second.code.toNat → first = second := by
    intro equal
    cases first
    cases second
    exact congrArg Alias.mk (UInt8.toNat_inj.mp equal)
  apply codes
  by_cases letter : first.code < 26
  · by_cases letterSecond : second.code < 26
    · have chars : Char.ofNat ('a'.toNat + first.code.toNat) =
          Char.ofNat ('a'.toNat + second.code.toNat) := by
        simpa [text, letter, letterSecond] using same
      have numbers := congrArg Char.toNat chars
      rw [toNat_letter _ (UInt8.lt_iff_toNat_lt.mp letter),
        toNat_letter _ (UInt8.lt_iff_toNat_lt.mp letterSecond)] at numbers
      omega
    · have short := text_length_of_letter letter
      have long := text_length_of_number letterSecond
      rw [same] at short
      omega
  · by_cases letterSecond : second.code < 26
    · have long := text_length_of_number letter
      have short := text_length_of_letter letterSecond
      rw [same] at long
      omega
    · have numbered : Parameters.numbered "t" first.code.toNat =
          Parameters.numbered "t" second.code.toNat := by
        simpa only [Parameters.numbered, text, letter, letterSecond, if_false] using same
      exact Parameters.numbered_injective numbered

end Alias

namespace Aliases

variable {aliases : Aliases} {table : Table} {qualifier : Alias}

theorem toNat_toUInt8 {place : Nat} (inRange : place ≤ aliases.tables.length) :
    place.toUInt8.toNat = place := by
  have room := aliases.length_le
  have fits : place < 256 := by
    simp only [capacity] at room
    omega
  exact UInt8.toNat_ofNat_of_lt fits

/-- The alias of a table is its place. -/
theorem get?_eq_some_iff :
    aliases.get? table = some qualifier ↔
      aliases.tables[qualifier.code.toNat]? = some table := by
  constructor
  · intro found
    obtain ⟨place, first, rfl⟩ := Option.map_eq_some_iff.mp found
    obtain ⟨inRange, isTable, _⟩ := List.idxOf?_eq_some_iff.mp first
    rw [toNat_toUInt8 (Nat.le_of_lt inRange), List.getElem?_eq_getElem inRange]
    exact congrArg some isTable
  · intro isTable
    obtain ⟨inRange, isTable⟩ := List.getElem?_eq_some_iff.mp isTable
    have first : aliases.tables.idxOf? table = some qualifier.code.toNat := by
      refine List.idxOf?_eq_some_iff.mpr ⟨inRange, isTable, ?_⟩
      intro other earlier same
      have places := (List.Nodup.getElem_inj_iff aliases.nodup).mp (isTable.trans same.symm)
      omega
    simp [get?, first]

theorem code_lt (known : aliases.get? table = some qualifier) :
    qualifier.code.toNat < aliases.tables.length :=
  (List.getElem?_eq_some_iff.mp (get?_eq_some_iff.mp known)).1

theorem require_ok (given : aliases.require table = .ok qualifier) :
    aliases.get? table = some qualifier := by
  unfold require at given
  split at given
  · rename_i known
    cases given
    exact known
  · cases given

theorem mem_toList_iff :
    (qualifier, table) ∈ aliases.toList ↔ aliases.get? table = some qualifier := by
  rw [get?_eq_some_iff]
  constructor
  · intro member
    obtain ⟨⟨own, place⟩, listed, same⟩ := List.mem_map.mp member
    cases same
    have isTable := List.mem_zipIdx_iff_getElem?.mp listed
    have inRange := (List.getElem?_eq_some_iff.mp isTable).1
    rw [toNat_toUInt8 (Nat.le_of_lt inRange)]
    exact isTable
  · intro isTable
    refine List.mem_map.mpr ⟨(table, qualifier.code.toNat), ?_, ?_⟩
    · exact List.mem_zipIdx_iff_getElem?.mpr isTable
    · simp

theorem map_code_toList (aliases : Aliases) :
    aliases.toList.map (fun entry => entry.1.code.toNat) = List.range aliases.tables.length := by
  apply List.ext_getElem
  · simp [toList]
  · intro place first second
    have inRange : place < aliases.tables.length := by simpa using second
    simp [toList, toNat_toUInt8 (Nat.le_of_lt inRange)]

theorem map_table_toList (aliases : Aliases) : aliases.toList.map Prod.snd = aliases.tables := by
  apply List.ext_getElem
  · simp [toList]
  · intro place first second
    simp [toList]

theorem nodup_texts (aliases : Aliases) :
    (aliases.toList.map fun entry => entry.1.text).Nodup := by
  have codes : (aliases.toList.map fun entry => entry.1.code.toNat).Nodup := by
    rw [map_code_toList]
    exact List.nodup_range
  rw [List.Nodup, List.pairwise_map] at codes ⊢
  refine codes.imp fun different same => different ?_
  rw [Alias.text_injective same]

/-- Every alias stays what it is. More tables may follow. -/
def Extends (before after : Aliases) : Prop :=
  before.tables <+: after.tables

theorem Extends.get? {before after : Aliases} (extended : Extends before after)
    (known : before.get? table = some qualifier) : after.get? table = some qualifier := by
  rw [get?_eq_some_iff] at known ⊢
  obtain ⟨inRange, isTable⟩ := List.getElem?_eq_some_iff.mp known
  rw [List.prefix_iff_getElem?.mp extended _ inRange, isTable]

theorem aliasFor_ok {before after : Aliases}
    (given : before.aliasFor table = .ok (qualifier, after)) :
    before = after ∧ before.get? table = some qualifier ∨
      table ∉ before.tables ∧ after.tables = before.tables ++ [table] ∧
        qualifier.code.toNat = before.tables.length := by
  unfold aliasFor at given
  split at given
  · rename_i known
    cases given
    exact .inl ⟨rfl, known⟩
  · rename_i unknown
    split at given
    · cases given
      exact .inr ⟨not_mem_of_get?_eq_none unknown, rfl, toNat_toUInt8 (Nat.le_refl _)⟩
    · cases given

theorem aliasFor_extends {before after : Aliases}
    (given : before.aliasFor table = .ok (qualifier, after)) : before.Extends after := by
  rcases aliasFor_ok given with ⟨rfl, _⟩ | ⟨_, tables, _⟩
  · exact List.prefix_rfl
  · rw [Extends, tables]
    exact List.prefix_append _ _

end Aliases

end TypedSql
