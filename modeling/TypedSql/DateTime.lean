import TypedSql.Number.Power
import TypedSql.Text.Blank
import TypedSql.Text.Digits

namespace TypedSql

namespace Calendar

def isLeapYear (year : Int) : Bool :=
  year % 4 == 0 && (year % 100 != 0 || year % 400 == 0)

/-- The length of a month of the Gregorian calendar, extended to all years. -/
def daysInMonth (year : Int) : Nat → Nat
  | 2 => if isLeapYear year then 29 else 28
  | 4 | 6 | 9 | 11 => 30
  | _ => 31

end Calendar

/-- A date and a time of day without a zone. A nanosecond of a billion or more is in the leap second
that follows the second, which need not be the last of its minute. -/
structure DateTime where
  year : Int
  month : Nat
  day : Nat
  hour : Nat
  minute : Nat
  second : Nat
  nanosecond : Nat
  year_bounds : -262143 ≤ year ∧ year ≤ 262142
  month_bounds : 1 ≤ month ∧ month ≤ 12
  day_bounds : 1 ≤ day ∧ day ≤ Calendar.daysInMonth year month
  hour_lt : hour < 24
  minute_lt : minute < 60
  second_lt : second < 60
  nanosecond_lt : nanosecond < 2000000000
  deriving DecidableEq

namespace DateTime

/-- The moment of a date and a time that are told apart. Only the last second of a minute can be
told to have a leap second behind it. -/
def of? (year : Int) (month day hour minute second nanosecond : Nat) : Option DateTime :=
  if years : -262143 ≤ year ∧ year ≤ 262142 then
    if months : 1 ≤ month ∧ month ≤ 12 then
      if days : 1 ≤ day ∧ day ≤ Calendar.daysInMonth year month then
        if clock : hour < 24 ∧ minute < 60 ∧ second < 60 then
          if fraction : nanosecond < if second = 59 then 2000000000 else 1000000000 then
            some
              { year, month, day, hour, minute, second, nanosecond
                year_bounds := years
                month_bounds := months
                day_bounds := days
                hour_lt := clock.1
                minute_lt := clock.2.1
                second_lt := clock.2.2
                nanosecond_lt := Nat.lt_of_lt_of_le fraction (by split <;> decide) }
          else none
        else none
      else none
    else none
  else none

def epoch : DateTime :=
  { year := 1970, month := 1, day := 1, hour := 0, minute := 0, second := 0, nanosecond := 0
    year_bounds := by decide
    month_bounds := by decide
    day_bounds := by decide
    hour_lt := by decide
    minute_lt := by decide
    second_lt := by decide
    nanosecond_lt := by decide }

instance : Inhabited DateTime := ⟨epoch⟩

def fields (moment : DateTime) : List Int :=
  [moment.year, moment.month, moment.day, moment.hour, moment.minute, moment.second,
    moment.nanosecond]

def compare (left right : DateTime) : Ordering :=
  Ord.compare left.fields right.fields

/-- Years of four digits stand plain, all others carry a sign. -/
def yearChars (year : Int) : List Char :=
  if 0 ≤ year ∧ year ≤ 9999 then Text.digits 4 year.toNat
  else (if year < 0 then '-' else '+') :: Text.digits 4 year.natAbs

/-- A fraction of 0, 3, 6 or 9 digits, the fewest that show it all. -/
def fractionChars (nanosecond : Nat) : List Char :=
  if nanosecond = 0 then []
  else if nanosecond % 1000000 = 0 then '.' :: Text.digits 3 (nanosecond / 1000000)
  else if nanosecond % 1000 = 0 then '.' :: Text.digits 6 (nanosecond / 1000)
  else '.' :: Text.digits 9 nanosecond

def chars (moment : DateTime) : List Char :=
  yearChars moment.year ++ '-' :: Text.digits 2 moment.month ++ '-' :: Text.digits 2 moment.day ++
    ' ' :: Text.digits 2 moment.hour ++ ':' :: Text.digits 2 moment.minute ++
    ':' :: Text.digits 2 (moment.second + moment.nanosecond / 1000000000) ++
    fractionChars (moment.nanosecond % 1000000000)

def text (moment : DateTime) : String :=
  String.ofList moment.chars

abbrev Reader (α : Type) := List Char → Option (α × List Char)

def readDigits (width : Nat) : Reader Nat := fun text =>
  let digits := (text.take width).takeWhile Char.isDigit
  if digits.isEmpty then none
  else some (Nat.ofDigitChars 10 digits 0, text.drop digits.length)

def readNumber (width : Nat) : Reader Nat := fun text =>
  readDigits width (Text.skipBlanks text)

/-- At most four digits, or any number of them after a sign. -/
def readYear : Reader Int := fun text =>
  match Text.skipBlanks text with
  | '-' :: rest => (readDigits rest.length rest).map fun (year, rest) => (-(year : Int), rest)
  | '+' :: rest => (readDigits rest.length rest).map fun (year, rest) => ((year : Int), rest)
  | text => (readDigits 4 text).map fun (year, rest) => ((year : Int), rest)

def readChar (expected : Char) : Reader Unit
  | c :: rest => if c = expected then some ((), rest) else none
  | [] => none

/-- A point and digits, of which nine count, or nothing at all. -/
def readFraction : Reader Nat
  | '.' :: rest => do
    let (value, tail) ← readDigits 9 rest
    some (value * Number.tenTo (9 - (rest.length - tail.length)), tail.dropWhile Char.isDigit)
  | text => some (0, text)

inductive Separator where
  | blank
  | letter

def Separator.read : Separator → Reader Unit
  | .blank => fun text => some ((), Text.skipBlanks text)
  | .letter => readChar 'T'

/-- The moment that a whole text names. The sixtieth second is a leap second. -/
def read? (separator : Separator) (text : List Char) : Option DateTime := do
  let (year, text) ← readYear text
  let ((), text) ← readChar '-' text
  let (month, text) ← readNumber 2 text
  let ((), text) ← readChar '-' text
  let (day, text) ← readNumber 2 text
  let ((), text) ← separator.read text
  let (hour, text) ← readNumber 2 text
  let ((), text) ← readChar ':' text
  let (minute, text) ← readNumber 2 text
  let ((), text) ← readChar ':' text
  let (second, text) ← readNumber 2 text
  let (fraction, text) ← readFraction text
  if text.isEmpty then
    if second = 60 then of? year month day hour minute 59 (1000000000 + fraction)
    else of? year month day hour minute second fraction
  else
    none

def parse? (text : String) : Option DateTime :=
  read? .blank text.toList <|> read? .letter text.toList

end DateTime

end TypedSql
