import Mathlib.Data.List.Basic
import TypedSql.Guid

namespace TypedSql.Guid

open Number (twoTo)

theorem hexValue?_hexDigit (digit : Nat) : Text.hexValue? (hexDigit digit) = some (digit % 16) := by
  have all : ∀ d < 16, Text.hexValue? (Nat.digitChar d) = some d := by decide
  exact all _ (Nat.mod_lt _ (by decide))

theorem hexDigit_ne (digit : Nat) : hexDigit digit ≠ '-' := by
  have all : ∀ d < 16, Nat.digitChar d ≠ '-' := by decide
  exact all _ (Nat.mod_lt _ (by decide))

theorem length_hexDigits (guid : Guid) : guid.hexDigits.length = 32 := by
  simp [hexDigits]

theorem ne_of_mem_hexDigits {guid : Guid} {c : Char} (member : c ∈ guid.hexDigits) : c ≠ '-' := by
  obtain ⟨place, _, rfl⟩ := List.mem_map.mp member
  exact hexDigit_ne _

theorem mapM_hexValue? (digit : Nat → Nat) (places : List Nat) :
    (places.map fun place => hexDigit (digit place)).mapM Text.hexValue? =
      some (places.map fun place => digit place % 16) := by
  induction places with
  | nil => rfl
  | cons place places ih => simp [List.mapM_cons, hexValue?_hexDigit, ih]

/-- The first digits of a number of 32 hexadecimal ones are those of a quotient of it. -/
theorem foldl_digits {n : Nat} (small : n < twoTo 128) {count : Nat} (bound : count ≤ 32) :
    ((List.range count).map fun place => n / twoTo (4 * (31 - place)) % 16).foldl
      (fun value digit => 16 * value + digit) 0 = n / twoTo (4 * (32 - count)) := by
  induction count with
  | zero => exact (Nat.div_eq_of_lt small).symm
  | succ count ih =>
    have below : 4 * (32 - count) = 4 * (31 - count) + 4 := by omega
    have weight : twoTo (4 * (32 - count)) = twoTo (4 * (31 - count)) * 16 := by
      rw [below]
      exact Nat.pow_add 2 _ 4
    rw [List.range_succ, List.map_append, List.foldl_append, ih (by omega), weight,
      ← Nat.div_div_eq_div_mul]
    simp only [List.map_cons, List.map_nil, List.foldl_cons, List.foldl_nil, Nat.reduceSubDiff]
    exact Nat.div_add_mod _ 16

theorem hexNumber?_hexDigits (guid : Guid) :
    Text.hexNumber? guid.hexDigits = some guid.bits.toNat := by
  have small : guid.bits.toNat < twoTo 128 := guid.bits.isLt
  rw [Text.hexNumber?, hexDigits, mapM_hexValue?, Option.map_some,
    foldl_digits small (Nat.le_refl 32)]
  exact congrArg some (Nat.div_one _)

theorem length_hyphenate {digits : List Char} (length : digits.length = 32) :
    (hyphenate digits).length = 36 := by
  simp [hyphenate, length]

theorem filter_hyphenate {digits : List Char} (inside : ∀ c ∈ digits, c ≠ '-') :
    (hyphenate digits).filter (· != '-') = digits := by
  have keep : ∀ part, part ⊆ digits → part.filter (· != '-') = part := fun part within =>
    List.filter_eq_self.mpr fun c member => by simpa using inside c (within member)
  have block : ∀ first count, ((digits.drop first).take count) ⊆ digits := fun first count =>
    List.Subset.trans (List.take_subset _ _) (List.drop_subset _ _)
  have joined : ∀ first count, (digits.drop first).take count ++ digits.drop (first + count) =
      digits.drop first := fun first count => by
    rw [← List.drop_drop, List.take_append_drop]
  simp only [hyphenate, List.cons_append, List.filter_append, List.filter_cons, keep _ (block _ _),
    keep _ (List.take_subset 8 digits), keep _ (List.drop_subset 20 digits), List.append_assoc]
  simp only [bne_self_eq_false, Bool.false_eq_true, if_false]
  rw [joined 16 4, joined 12 4, joined 8 4, List.take_append_drop]

theorem parse?_text (guid : Guid) : parse? guid.text = some guid := by
  have length := length_hexDigits guid
  have whole : (hyphenate guid.hexDigits).filter (· != '-') = guid.hexDigits :=
    filter_hyphenate fun _ => ne_of_mem_hexDigits
  have read : ofHexDigits? guid.hexDigits = some guid := by
    rw [ofHexDigits?, if_pos length, hexNumber?_hexDigits, Option.map_some, BitVec.ofNat_toNat,
      BitVec.setWidth_eq]
  have plain : ofHexDigits? (hyphenate guid.hexDigits) = none := by
    rw [ofHexDigits?, length_hyphenate length]
    rfl
  have hyphenated : ofHyphenated? (hyphenate guid.hexDigits) = some guid := by
    rw [ofHyphenated?, whole, if_pos ⟨length, rfl⟩, read]
  rw [parse?, text, String.toList_ofList, plain, hyphenated]
  rfl

end TypedSql.Guid
