import TypedSql.Toml.Value
import TypedSql.Text.Digits
import TypedSql.DateTime

namespace TypedSql.Toml

/-- Whether digits are written with single underscores between them at most. -/
def isDigits (isDigit : Char → Bool) : List Char → Bool
  | [] => false
  | [last] => isDigit last
  | first :: '_' :: rest => isDigit first && isDigits isDigit rest
  | first :: rest => isDigit first && isDigits isDigit rest

/-- Whether digits make a decimal number: no zero stands before others. -/
def isDecimal (digits : List Char) : Bool :=
  isDigits Char.isDigit digits && (digits.head? != some '0' || digits.length == 1)

def digitsValue (base : Nat) (digits : List Char) : Nat :=
  (digits.filterMap Text.hexValue?).foldl (fun number digit => base * number + digit) 0

def splitSign : List Char → Bool × List Char
  | '-' :: rest => (true, rest)
  | '+' :: rest => (false, rest)
  | input => (false, input)

def integer? (text : List Char) : Option Int :=
  match text with
  | '0' :: 'x' :: digits =>
    if isDigits (fun c => (Text.hexValue? c).isSome) digits then some (digitsValue 16 digits)
    else none
  | '0' :: 'o' :: digits =>
    if isDigits (fun c => '0' ≤ c && c ≤ '7') digits then some (digitsValue 8 digits) else none
  | '0' :: 'b' :: digits =>
    if isDigits (fun c => c = '0' || c = '1') digits then some (digitsValue 2 digits) else none
  | text =>
    let (isNegative, digits) := splitSign text
    if isDecimal digits then
      let number : Int := digitsValue 10 digits
      some (if isNegative then -number else number)
    else none

/-- The widest range of integers that are read at all. -/
def isReadable (number : Int) : Bool :=
  -0x80000000000000000000000000000000 ≤ number && number < 0x100000000000000000000000000000000

def isExponentMark (c : Char) : Bool :=
  c = 'e' || c = 'E'

def isExponent : List Char → Bool
  | [] => true
  | _ :: rest => isDigits Char.isDigit (splitSign rest).2

def isFloat (text : List Char) : Bool :=
  let magnitude := (splitSign text).2
  if magnitude = ['i', 'n', 'f'] ∨ magnitude = ['n', 'a', 'n'] then true
  else
    let mantissa := magnitude.takeWhile fun c => !isExponentMark c
    let exponent := magnitude.drop mantissa.length
    let whole := mantissa.takeWhile (· ≠ '.')
    isDecimal whole && isExponent exponent &&
      match mantissa.drop whole.length with
      | [] => !exponent.isEmpty
      | _ :: fraction => isDigits Char.isDigit fraction

def readNumber (width : Nat) (input : List Char) : Option (Nat × List Char) :=
  let digits := input.take width
  if digits.length = width ∧ digits.all Char.isDigit then
    some (digitsValue 10 digits, input.drop width)
  else none

def readPair (limit : Nat) (input : List Char) : Option (List Char) := do
  let (number, rest) ← readNumber 2 input
  if number < limit then some rest else none

def readFraction : List Char → Option (List Char)
  | '.' :: rest =>
    let digits := rest.takeWhile Char.isDigit
    if digits.isEmpty then none else some (rest.drop digits.length)
  | input => some input

/-- A time of day. Its seconds may be missing. -/
def readTime (input : List Char) : Option (List Char) := do
  match ← readPair 24 input with
  | ':' :: rest =>
    match ← readPair 60 rest with
    | ':' :: rest => readFraction (← readPair 61 rest)
    | rest => some rest
  | _ => none

def readDate (input : List Char) : Option (List Char) := do
  let (year, rest) ← readNumber 4 input
  let ('-' :: rest) := rest | none
  let (month, rest) ← readNumber 2 rest
  let ('-' :: rest) := rest | none
  let (day, rest) ← readNumber 2 rest
  let _ ← DateTime.of? year month day 0 0 0 0
  some rest

def isZone (text : List Char) : Bool :=
  match text with
  | [] | ['Z'] | ['z'] => true
  | sign :: rest =>
    (sign = '+' || sign = '-') &&
      match readPair 24 rest with
      | some (':' :: minutes) => readPair 60 minutes == some []
      | _ => false

def isMoment (text : List Char) : Bool :=
  match readDate text with
  | some [] => true
  | some (separator :: time) =>
    (separator = 'T' || separator = 't' || separator = ' ') && (readTime time).any isZone
  | none => readTime text == some []

def literal? (text : List Char) : Option Value :=
  if text = "true".toList then some (.boolean true)
  else if text = "false".toList then some (.boolean false)
  else
    match integer? text with
    | some number => if isReadable number then some (.integer number) else none
    | none =>
      if isFloat text then some .float
      else if isMoment text then some .moment
      else none

def isLiteral (c : Char) : Bool :=
  c.isAlphanum || c = '_' || c = '+' || c = '-' || c = '.' || c = ':'

/-- Reads a literal. A blank may stand between a date and a time. -/
def readLiteral (input : List Char) : Option (Value × List Char) := do
  let text := input.takeWhile isLiteral
  let rest := input.drop text.length
  match readDate text, rest with
  | some [], ' ' :: clock =>
    let time := clock.takeWhile isLiteral
    if (time.head?.map Char.isDigit).getD false then
      return (← literal? (text ++ ' ' :: time), clock.drop time.length)
    else
      return (← literal? text, rest)
  | _, _ => return (← literal? text, rest)

end TypedSql.Toml
