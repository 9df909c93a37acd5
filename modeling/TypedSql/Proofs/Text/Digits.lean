import Mathlib.Data.List.Basic
import TypedSql.Number.Power
import TypedSql.Text.Blank
import TypedSql.Text.Digits

namespace TypedSql.Text

theorem digits_ne_nil (width n : Nat) : digits width n ≠ [] := by
  simp [digits]

theorem isDigit_of_mem_digits {width n : Nat} {c : Char} (member : c ∈ digits width n) :
    c.isDigit := by
  rcases List.mem_append.mp member with padding | digit
  · rw [(List.mem_replicate.mp padding).2]
    rfl
  · exact Nat.isDigit_of_mem_toDigits (by decide) (by decide) digit

theorem ofDigitChars_digits (width n : Nat) : Nat.ofDigitChars 10 (digits width n) 0 = n := by
  rw [digits, Nat.ofDigitChars_append, Nat.ofDigitChars_replicate_zero, Nat.mul_zero,
    Nat.ofDigitChars_toDigits (by decide) (by decide)]

theorem le_length_digits (width n : Nat) : width ≤ (digits width n).length := by
  rw [digits, List.length_append, List.length_replicate]
  omega

theorem length_digits {width n : Nat} (positive : 0 < width) (fits : n < Number.tenTo width) :
    (digits width n).length = width := by
  have short := (Nat.length_toDigits_le_iff (by decide) positive).mpr fits
  rw [digits, List.length_append, List.length_replicate]
  omega

theorem le_ofDigitChars (run : List Char) (n : Nat) : n ≤ Nat.ofDigitChars 10 run n := by
  induction run generalizing n with
  | nil => exact Nat.le_refl _
  | cons c run ih =>
    rw [Nat.ofDigitChars_cons]
    have more := ih (10 * n + (c.toNat - '0'.toNat))
    omega

theorem not_isBlank_of_isDigit {c : Char} (digit : c.isDigit) : isBlank c = false := by
  simp only [Char.isDigit, Bool.and_eq_true, decide_eq_true_eq, ge_iff_le,
    UInt32.le_iff_toNat_le] at digit
  have zero : '0'.val.toNat = 48 := rfl
  have nine : '9'.val.toNat = 57 := rfl
  have code : c.toNat = c.val.toNat := rfl
  simp [isBlank, Unicode.Ranges.contains, Unicode.Ranges.containsCode, blanks]
  omega

theorem skipBlanks_of_not_isBlank {c : Char} (filled : isBlank c = false) (rest : List Char) :
    skipBlanks (c :: rest) = c :: rest := by
  simp [skipBlanks, filled]

theorem skipBlanks_digits (width n : Nat) (rest : List Char) :
    skipBlanks (digits width n ++ rest) = digits width n ++ rest := by
  cases run : digits width n with
  | nil => exact (digits_ne_nil width n run).elim
  | cons c tail =>
    have member : c ∈ digits width n := by simp [run]
    have digit := isDigit_of_mem_digits member
    exact skipBlanks_of_not_isBlank (not_isBlank_of_isDigit digit) _

end TypedSql.Text
