import TypedSql.DateTime
import TypedSql.Proofs.Text.Digits
import TypedSql.Proofs.Text.Run

namespace TypedSql.DateTime

open Text (Ends)

variable {run rest : List Char}

/-- A run of digits is read whole, if it fills the width or nothing goes on with it. -/
theorem readDigits_append {width : Nat} (inside : ∀ c ∈ run, c.isDigit) (filled : run ≠ [])
    (short : run.length ≤ width) (ends : run.length = width ∨ Ends Char.isDigit rest) :
    readDigits width (run ++ rest) = some (Nat.ofDigitChars 10 run 0, rest) := by
  have cut : Ends Char.isDigit (rest.take (width - run.length)) := by
    intro c first
    rw [List.head?_take] at first
    split at first
    · cases first
    · rcases ends with full | ends
      · omega
      · exact ends c first
  have taken : ((run ++ rest).take width).takeWhile Char.isDigit = run := by
    rw [List.take_append, List.take_of_length_le short, Text.takeWhile_run inside cut]
  rw [readDigits, taken]
  simp [filled]

theorem readDigits_digits {width n : Nat} (positive : 0 < width) (fits : n < Number.tenTo width) :
    readDigits width (Text.digits width n ++ rest) = some (n, rest) := by
  have length := Text.length_digits positive fits
  rw [readDigits_append (fun _ => Text.isDigit_of_mem_digits) (Text.digits_ne_nil _ _)
    (Nat.le_of_eq length) (.inl length), Text.ofDigitChars_digits]

theorem readNumber_digits {width n : Nat} (positive : 0 < width) (fits : n < Number.tenTo width) :
    readNumber width (Text.digits width n ++ rest) = some (n, rest) := by
  rw [readNumber, Text.skipBlanks_digits, readDigits_digits positive fits]

theorem readNumber_pair {n : Nat} (fits : n < 100) :
    readNumber 2 (Text.digits 2 n ++ rest) = some (n, rest) :=
  readNumber_digits (by decide) fits

theorem readDigits_sized (n : Nat) (ends : Ends Char.isDigit rest) :
    readDigits (Text.digits 4 n ++ rest).length (Text.digits 4 n ++ rest) = some (n, rest) := by
  rw [readDigits_append (fun _ => Text.isDigit_of_mem_digits) (Text.digits_ne_nil _ _)
    (by rw [List.length_append]; omega) (.inr ends), Text.ofDigitChars_digits]

theorem readYear_plain {n : Nat} (fits : n < 10000) :
    readYear (Text.digits 4 n ++ rest) = some ((n : Int), rest) := by
  have read : readDigits 4 (Text.digits 4 n ++ rest) = some (n, rest) :=
    readDigits_digits (by decide) fits
  have digit : ∀ c ∈ Text.digits 4 n, c.isDigit := fun _ => Text.isDigit_of_mem_digits
  rw [readYear, Text.skipBlanks_digits]
  obtain ⟨c, tail, spelled⟩ := List.exists_cons_of_ne_nil (Text.digits_ne_nil 4 n)
  rw [spelled, List.cons_append] at read ⊢
  rw [spelled] at digit
  split
  · rename_i same
    cases same
    exact absurd (digit '-' (by simp)) (by decide)
  · rename_i same
    cases same
    exact absurd (digit '+' (by simp)) (by decide)
  · rw [read]
    rfl

theorem readYear_yearChars (year : Int) (ends : Ends Char.isDigit rest) :
    readYear (yearChars year ++ rest) = some (year, rest) := by
  unfold yearChars
  split
  · rename_i plain
    obtain ⟨n, rfl⟩ := Int.eq_ofNat_of_zero_le plain.1
    exact readYear_plain (by omega)
  · by_cases negative : year < 0
    · have value : -(year.natAbs : Int) = year := by omega
      rw [if_pos negative, List.cons_append, readYear, Text.skipBlanks_of_not_isBlank (by decide)]
      simp only [readDigits_sized _ ends, Option.map_some, value]
    · have value : (year.natAbs : Int) = year := by omega
      rw [if_neg negative, List.cons_append, readYear, Text.skipBlanks_of_not_isBlank (by decide)]
      simp only [readDigits_sized _ ends, Option.map_some, value]

theorem readFraction_digits {width n : Nat} (positive : 0 < width) (short : width ≤ 9)
    (fits : n < Number.tenTo width) :
    readFraction ('.' :: Text.digits width n) = some (n * Number.tenTo (9 - width), []) := by
  have length := Text.length_digits positive fits
  have read : readDigits 9 (Text.digits width n) = some (n, []) := by
    rw [← List.append_nil (Text.digits width n), readDigits_append
      (fun _ => Text.isDigit_of_mem_digits) (Text.digits_ne_nil _ _)
      (Nat.le_trans (Nat.le_of_eq length) short) (.inr Text.ends_nil), Text.ofDigitChars_digits]
  simp [readFraction, read, length]

theorem readFraction_fractionChars {nanosecond : Nat} (small : nanosecond < 1000000000) :
    readFraction (fractionChars nanosecond) = some (nanosecond, []) := by
  unfold fractionChars
  split_ifs with none milli micro
  · rw [none]
    rfl
  · have bound : Number.tenTo 3 = 1000 := rfl
    have unit : Number.tenTo (9 - 3) = 1000000 := rfl
    rw [readFraction_digits (by decide) (by decide) (by omega), unit]
    congr 2
    omega
  · have bound : Number.tenTo 6 = 1000000 := rfl
    have unit : Number.tenTo (9 - 6) = 1000 := rfl
    rw [readFraction_digits (by decide) (by decide) (by omega), unit]
    congr 2
    omega
  · have bound : Number.tenTo 9 = 1000000000 := rfl
    rw [readFraction_digits (by decide) (by decide) (by omega)]
    congr 2
    exact Nat.mul_one _

/-- A leap second before the last of its minute. -/
def IsInnerLeap (moment : DateTime) : Prop :=
  moment.second < 59 ∧ 1000000000 ≤ moment.nanosecond

instance (moment : DateTime) : Decidable moment.IsInnerLeap :=
  inferInstanceAs (Decidable (_ ∧ _))

/-- The moment that the text of a moment names. A leap second within a minute is written like the
second after it. -/
def named (moment : DateTime) : DateTime :=
  { moment with
    second := if moment.IsInnerLeap then moment.second + 1 else moment.second
    nanosecond :=
      if moment.IsInnerLeap then moment.nanosecond - 1000000000 else moment.nanosecond
    second_lt := by
      have last := moment.second_lt
      split_ifs with inner
      · exact Nat.succ_lt_succ inner.1
      · exact last
    nanosecond_lt := by
      have bound := moment.nanosecond_lt
      split <;> omega }

variable {moment : DateTime}

theorem named_of_not_isInnerLeap (outer : ¬ moment.IsInnerLeap) : moment.named = moment := by
  simp only [named, if_neg outer]

theorem named_of_isInnerLeap (inner : moment.IsInnerLeap) :
    moment.named.second = moment.second + moment.nanosecond / 1000000000 ∧
      moment.named.nanosecond = moment.nanosecond % 1000000000 := by
  have bound := moment.nanosecond_lt
  have leap := inner.2
  simp only [named, if_pos inner]
  omega

theorem not_isInnerLeap_named (moment : DateTime) : ¬ moment.named.IsInnerLeap := by
  by_cases inner : moment.IsInnerLeap
  · intro again
    have fraction := (named_of_isInnerLeap inner).2
    have leap := again.2
    omega
  · rwa [named_of_not_isInnerLeap inner]

theorem named_eq_iff : moment.named = moment ↔ ¬ moment.IsInnerLeap := by
  constructor
  · intro same inner
    have outer := moment.not_isInnerLeap_named
    rw [same] at outer
    exact outer inner
  · exact named_of_not_isInnerLeap

theorem of?_eq (outer : ¬ moment.IsInnerLeap) :
    of? moment.year moment.month moment.day moment.hour moment.minute moment.second
      moment.nanosecond = some moment := by
  have fraction :
      moment.nanosecond < if moment.second = 59 then 2000000000 else 1000000000 := by
    have bound := moment.nanosecond_lt
    have last := moment.second_lt
    unfold IsInnerLeap at outer
    split <;> omega
  rw [of?, dif_pos moment.year_bounds, dif_pos moment.month_bounds, dif_pos moment.day_bounds,
    dif_pos ⟨moment.hour_lt, moment.minute_lt, moment.second_lt⟩, dif_pos fraction]

theorem day_le (moment : DateTime) : moment.day ≤ 31 := by
  refine Nat.le_trans moment.day_bounds.2 ?_
  unfold Calendar.daysInMonth
  split
  · split <;> decide
  all_goals decide

/-- The leap second at the end of a minute is written as second 60, which no other second is. -/
theorem of?_written (moment : DateTime) :
    (if moment.second + moment.nanosecond / 1000000000 = 60 then
      of? moment.year moment.month moment.day moment.hour moment.minute 59
        (1000000000 + moment.nanosecond % 1000000000)
    else
      of? moment.year moment.month moment.day moment.hour moment.minute
        (moment.second + moment.nanosecond / 1000000000) (moment.nanosecond % 1000000000)) =
      some moment.named := by
  have bound := moment.nanosecond_lt
  have last := moment.second_lt
  by_cases inner : moment.IsInnerLeap
  · obtain ⟨second, fraction⟩ := named_of_isInnerLeap inner
    have early := inner.1
    rw [if_neg (by omega), ← second, ← fraction]
    exact of?_eq moment.not_isInnerLeap_named
  · rw [named_of_not_isInnerLeap inner]
    by_cases leap : 1000000000 ≤ moment.nanosecond
    · have second : moment.second = 59 := by
        unfold IsInnerLeap at inner
        omega
      have written : moment.second + moment.nanosecond / 1000000000 = 60 := by omega
      have fraction : 1000000000 + moment.nanosecond % 1000000000 = moment.nanosecond := by omega
      rw [if_pos written, fraction, ← second, of?_eq inner]
    · have written : moment.second + moment.nanosecond / 1000000000 = moment.second := by omega
      have fraction : moment.nanosecond % 1000000000 = moment.nanosecond := by omega
      rw [written, fraction, if_neg (by omega), of?_eq inner]

theorem written_second_lt (moment : DateTime) :
    moment.second + moment.nanosecond / 1000000000 < 100 := by
  have second := moment.second_lt
  have bound := moment.nanosecond_lt
  omega

theorem read?_chars (moment : DateTime) : read? .blank moment.chars = some moment.named := by
  have dash : ∀ tail, Ends Char.isDigit ('-' :: tail) := fun _ => Text.ends_cons rfl
  have blank : ∀ tail, Text.skipBlanks (' ' :: tail) = Text.skipBlanks tail := fun _ => rfl
  have month : moment.month < 100 := Nat.lt_of_le_of_lt moment.month_bounds.2 (by decide)
  have day : moment.day < 100 := Nat.lt_of_le_of_lt moment.day_le (by decide)
  have hour : moment.hour < 100 := Nat.lt_trans moment.hour_lt (by decide)
  have minute : moment.minute < 100 := Nat.lt_trans moment.minute_lt (by decide)
  have fraction : moment.nanosecond % 1000000000 < 1000000000 := Nat.mod_lt _ (by decide)
  simp only [chars, List.append_assoc, List.cons_append, read?,
    readYear_yearChars moment.year (dash _), readChar, Separator.read, blank,
    Text.skipBlanks_digits, readNumber_pair month, readNumber_pair day, readNumber_pair hour,
    readNumber_pair minute, readNumber_pair moment.written_second_lt,
    readFraction_fractionChars fraction, if_true, Option.bind_eq_bind, Option.bind_some,
    List.isEmpty_nil]
  exact moment.of?_written

/-- The text of a moment reads as the moment it names: a leap second at the end of a minute as the
leap second, one before as the second after it. -/
theorem parse?_text (moment : DateTime) : parse? moment.text = some moment.named := by
  rw [parse?, text, String.toList_ofList, read?_chars]
  rfl

end TypedSql.DateTime
