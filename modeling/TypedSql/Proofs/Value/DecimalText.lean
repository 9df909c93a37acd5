import Mathlib.Data.List.TakeWhile
import TypedSql.Number.Decimal.Text
import TypedSql.Proofs.Text.Digits

namespace TypedSql.Number.Decimal

/-- The decimal with no sign at a zero, as its text reads. -/
def plain (value : Decimal) : Decimal :=
  { value with negative := value.negative && value.coefficient != 0 }

namespace Reading

variable {negative digit : Bool} {coefficient scale : Nat} {run rest : List Char}

theorem digits?_whole_cons {c : Char} (isDigit : c.isDigit)
    (fits : 10 * coefficient + (c.toNat - '0'.toNat) < limit) :
    digits? ⟨negative, coefficient, 0, false, digit⟩ (c :: rest) =
      digits? ⟨negative, 10 * coefficient + (c.toNat - '0'.toNat), 0, false, true⟩ rest := by
  rw [Nat.mul_comm] at fits ⊢
  rw [digits?, if_neg (by simp), if_pos isDigit, if_pos fits]
  rfl

theorem digits?_fraction_cons {c : Char} (isDigit : c.isDigit) (room : scale < 28)
    (fits : 10 * coefficient + (c.toNat - '0'.toNat) < limit) :
    digits? ⟨negative, coefficient, scale, true, digit⟩ (c :: rest) =
      digits? ⟨negative, 10 * coefficient + (c.toNat - '0'.toNat), scale + 1, true, true⟩ rest := by
  rw [Nat.mul_comm] at fits ⊢
  rw [digits?, if_neg (by simp; omega), if_pos isDigit, if_pos fits]
  rfl

theorem digits?_whole (inside : ∀ c ∈ run, c.isDigit) (filled : run ≠ [])
    (fits : Nat.ofDigitChars 10 run coefficient < limit) :
    digits? ⟨negative, coefficient, 0, false, digit⟩ (run ++ rest) =
      digits? ⟨negative, Nat.ofDigitChars 10 run coefficient, 0, false, true⟩ rest := by
  induction run generalizing coefficient digit with
  | nil => exact (filled rfl).elim
  | cons c run ih =>
    obtain ⟨first, later⟩ := List.forall_mem_cons.mp inside
    rw [Nat.ofDigitChars_cons] at fits ⊢
    have step := Nat.lt_of_le_of_lt (Text.le_ofDigitChars run _) fits
    rw [List.cons_append, digits?_whole_cons first step]
    cases run with
    | nil => rfl
    | cons => exact ih later (by simp) fits

theorem digits?_fraction (inside : ∀ c ∈ run, c.isDigit) (room : scale + run.length ≤ 28)
    (fits : Nat.ofDigitChars 10 run coefficient < limit) :
    digits? ⟨negative, coefficient, scale, true, true⟩ run =
      finish? ⟨negative, Nat.ofDigitChars 10 run coefficient, scale + run.length, true, true⟩ := by
  induction run generalizing coefficient scale with
  | nil => rfl
  | cons c run ih =>
    obtain ⟨first, later⟩ := List.forall_mem_cons.mp inside
    rw [Nat.ofDigitChars_cons] at fits ⊢
    rw [List.length_cons] at room ⊢
    have step := Nat.lt_of_le_of_lt (Text.le_ofDigitChars run _) fits
    rw [digits?_fraction_cons first (by omega) step, ih later (by omega) fits,
      Nat.add_right_comm, Nat.add_assoc]

theorem digits?_point :
    digits? ⟨negative, coefficient, 0, false, digit⟩ ('.' :: rest) =
      digits? ⟨negative, coefficient, 0, true, digit⟩ rest := by
  rw [digits?, if_neg (by simp), if_neg (by decide), if_pos (by simp)]

theorem finish?_eq (value : Decimal) (point digit : Bool) :
    finish? ⟨value.negative, value.coefficient, value.scale, point, digit⟩ = some value.plain := by
  simp [finish?, ofUnsignedZero?, ofParts?, value.coefficient_lt, value.scale_le, plain]

end Reading

variable (value : Decimal)

def digitChars : List Char :=
  Text.digits (value.scale + 1) value.coefficient

def wholeChars : List Char :=
  value.digitChars.take (value.digitChars.length - value.scale)

def fractionChars : List Char :=
  value.digitChars.drop (value.digitChars.length - value.scale)

/-- What is written of a decimal behind its sign. -/
def unsignedChars : List Char :=
  value.wholeChars ++ if value.scale = 0 then [] else '.' :: value.fractionChars

theorem text_eq : value.text =
    String.ofList ((if value.negative then ['-'] else []) ++ value.unsignedChars) := by
  rw [unsignedChars, ← List.append_assoc]
  rfl

theorem whole_append_fraction : value.wholeChars ++ value.fractionChars = value.digitChars :=
  List.take_append_drop _ _

theorem scale_lt_length : value.scale < value.digitChars.length :=
  Text.le_length_digits _ _

theorem length_fractionChars : value.fractionChars.length = value.scale := by
  have longer := value.scale_lt_length
  rw [fractionChars, List.length_drop]
  omega

theorem wholeChars_ne_nil : value.wholeChars ≠ [] := by
  have longer := value.scale_lt_length
  rw [wholeChars, ne_eq, List.take_eq_nil_iff, not_or]
  exact ⟨by omega, Text.digits_ne_nil _ _⟩

theorem isDigit_of_mem_wholeChars {c : Char} (member : c ∈ value.wholeChars) : c.isDigit :=
  Text.isDigit_of_mem_digits (List.mem_of_mem_take member)

theorem isDigit_of_mem_fractionChars {c : Char} (member : c ∈ value.fractionChars) : c.isDigit :=
  Text.isDigit_of_mem_digits (List.mem_of_mem_drop member)

theorem ofDigitChars_fractionChars :
    Nat.ofDigitChars 10 value.fractionChars (Nat.ofDigitChars 10 value.wholeChars 0) =
      value.coefficient := by
  rw [← Nat.ofDigitChars_append, whole_append_fraction, digitChars, Text.ofDigitChars_digits]

theorem digits?_unsignedChars :
    (Reading.start value.negative).digits? value.unsignedChars = some value.plain := by
  have total := value.ofDigitChars_fractionChars
  have fits := value.coefficient_lt
  have wholeFits : Nat.ofDigitChars 10 value.wholeChars 0 < limit := by
    rw [← total] at fits
    exact Nat.lt_of_le_of_lt (Text.le_ofDigitChars _ _) fits
  rw [unsignedChars, Reading.start, Reading.digits?_whole
    (fun _ => value.isDigit_of_mem_wholeChars) value.wholeChars_ne_nil wholeFits]
  by_cases integral : value.scale = 0
  · have none : value.fractionChars = [] :=
      List.eq_nil_of_length_eq_zero (value.length_fractionChars.trans integral)
    rw [none, Nat.ofDigitChars_nil] at total
    rw [if_pos integral, total, ← Reading.finish?_eq value false true, integral]
    rfl
  · have room : 0 + value.fractionChars.length ≤ 28 := by
      rw [length_fractionChars, Nat.zero_add]
      exact value.scale_le
    rw [if_neg integral, Reading.digits?_point, Reading.digits?_fraction
      (fun _ => value.isDigit_of_mem_fractionChars) room (total.symm ▸ fits), total,
      length_fractionChars, Nat.zero_add, Reading.finish?_eq]

theorem ofPositional?_chars :
    ofPositional? ((if value.negative then ['-'] else []) ++ value.unsignedChars) =
      some value.plain := by
  have read := value.digits?_unsignedChars
  cases signed : value.negative with
  | true =>
    rw [signed] at read
    exact read
  | false =>
    rw [signed] at read
    obtain ⟨c, rest, spelled⟩ := List.exists_cons_of_ne_nil value.wholeChars_ne_nil
    have digit : c.isDigit := value.isDigit_of_mem_wholeChars (by simp [spelled])
    rw [unsignedChars, spelled] at read ⊢
    have unsigned : c ≠ '-' ∧ c ≠ '+' := by
      constructor <;> rintro rfl <;> exact absurd digit (by decide)
    simpa [ofPositional?, unsigned] using read

theorem not_mark_of_mem_chars {c : Char}
    (member : c ∈ (if value.negative then ['-'] else []) ++ value.unsignedChars) :
    (c == 'e' || c == 'E') = false := by
  have digit : c.isDigit → (c == 'e' || c == 'E') = false := by
    intro isDigit
    by_contra mark
    rw [Bool.not_eq_false, Bool.or_eq_true, beq_iff_eq, beq_iff_eq] at mark
    rcases mark with rfl | rfl <;> exact absurd isDigit (by decide)
  rcases List.mem_append.mp member with sign | unsigned
  · split at sign
    · rw [List.mem_singleton.mp sign]
      rfl
    · cases sign
  · rcases List.mem_append.mp unsigned with whole | fraction
    · exact digit (value.isDigit_of_mem_wholeChars whole)
    · split at fraction
      · cases fraction
      · rcases List.mem_cons.mp fraction with rfl | later
        · rfl
        · exact digit (value.isDigit_of_mem_fractionChars later)

/-- The text of a decimal reads as it, with its scale. Only a zero loses its sign. -/
theorem parse?_text : parse? value.text = some value.plain := by
  have plain : ∀ c ∈ (if value.negative then ['-'] else []) ++ value.unsignedChars,
      !(c == 'e' || c == 'E') := fun c member => by
    rw [value.not_mark_of_mem_chars member]
    rfl
  rw [parse?, text_eq, String.toList_ofList, ofChars?, List.dropWhile_eq_nil_iff.mpr plain]
  exact value.ofPositional?_chars

end TypedSql.Number.Decimal
