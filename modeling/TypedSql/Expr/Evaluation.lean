import TypedSql.Error
import TypedSql.Value.Arithmetic
import TypedSql.Text.LetterCase
import TypedSql.Text.Pattern.Reading

namespace TypedSql

/-- Compares two values. Null equals null alone and has no order; a value that is not a number
differs from everything. -/
def Comparison.decide (comparison : Comparison) (left right : Value) : Except Unsupported Bool :=
  if left.isNull || right.isNull then
    match comparison with
    | equal => .ok (left.isNull && right.isNull)
    | notEqual => .ok !(left.isNull && right.isNull)
    | _ => .error .orderingWithNull
  else if !left.isComparable right then
    .error .incompatibleComparison
  else
    match left.order? right with
    | some order => .ok (comparison.holds order)
    | none => .ok (comparison == notEqual)

/-- Calculates with two values. Null yields null, and the sum of two texts is both together. -/
def Arithmetic.decide (operator : Arithmetic) (left right : Value) : Except Unsupported Value :=
  if left.isNull || right.isNull then .ok .null
  else
    match operator, left, right with
    | add, .string a, .string b => .ok (.string (a ++ b))
    | operator, left, right =>
      match Numeric.ofValue? left, Numeric.ofValue? right with
      | some a, some b =>
        match Numeric.calculate? operator a b with
        | some result => .ok result.toValue
        | none => .error .arithmeticOverflow
      | _, _ => .error .arithmeticOnNonNumbers

namespace Value

def asText (value : Value) : Except Unsupported String :=
  match value with
  | string text => .ok text
  | _ => .error .textMethodOnNonText

def datePart (part : DateTime → Int) : Value → Except Unsupported Value
  | datetime moment => .ok (int32 (Int32.ofInt (part moment)))
  | _ => .error .datePartOfNonDate

def apply (function : Function) (value : Value) : Except Unsupported Value :=
  match function with
  | .upper => value.asText.map fun text => string (Text.toUpper text)
  | .lower => value.asText.map fun text => string (Text.toLower text)
  | .trim => value.asText.map fun text => string (Text.trim text)
  | .length => do
    let text ← value.asText
    match Numeric.ofInt32? text.length with
    | some length => .ok length.toValue
    | none => .error .textTooLong
  | .abs =>
    match (Numeric.ofValue? value).bind Numeric.abs? with
    | some result => .ok result.toValue
    | none => .error .absOfNonNumber
  | .year => value.datePart DateTime.year
  | .month => value.datePart fun moment => moment.month
  | .day => value.datePart fun moment => moment.day

def round (value : Value) (places : Int) : Except Unsupported Value :=
  match Numeric.ofValue? value with
  | none => .error .roundOfNonNumber
  | some number =>
    match number.round? places with
    | some result => .ok result.toValue
    | none => .error .negativeRoundDigits

end Value

namespace Test

def occurs (part : List Char) : List Char → Bool
  | [] => part.isEmpty
  | c :: rest => part.isPrefixOf (c :: rest) || occurs part rest

def onText (test : Test) (text argument : String) : Bool :=
  match test with
  | startsWith => argument.toList.isPrefixOf text.toList
  | endsWith => argument.toList.isSuffixOf text.toList
  | _ => occurs argument.toList text.toList

def decideOne (test : Test) (value argument : Value) : Except Unsupported Bool :=
  match test with
  | after => Comparison.decide .greater value argument
  | before => Comparison.decide .less value argument
  | matchesPattern => do
    match Text.Pattern.parse? (← argument.asText) with
    | some pattern => return pattern.isMatch (← value.asText)
    | none => throw .invalidPattern
  | test => do
    let text ← value.asText
    return test.onText text (← argument.asText)

def decideBetween (value low high : Value) : Except Unsupported Bool := do
  if ← Comparison.decide .greaterOrEqual value low then
    Comparison.decide .lessOrEqual value high
  else
    return false

end Test

namespace Expr

/-- A step of the evaluation of `expr`, which is what its error is about. -/
def step {α : Type} (expr : Expr) (result : Except Unsupported α) : Except Error α :=
  result.mapError (.unsupported expr)

def asBool (expr : Expr) (value : Value) : Except Error Bool :=
  match value with
  | .bool truth => .ok truth
  | _ => .error (.unsupported expr .notBoolean)

mutual

/-- The value of an expression without columns. Operands are evaluated from the left, a connective
only as far as needed. -/
def evaluate : Expr → Except Error Value
  | literal value => .ok value
  | column reference => .error (.unsupported (column reference) .columnAsLiteral)
  | list items => .error (.unsupported (list items) .strayList)
  | not inner => do return .bool !(← inner.asBool (← inner.evaluate))
  | connect connective left right => do
    let first ← left.asBool (← left.evaluate)
    if connective.isSettledBy first then
      return .bool first
    else
      return .bool (← right.asBool (← right.evaluate))
  | compare comparison left right => do
    let a ← left.evaluate
    let b ← right.evaluate
    return .bool (← (compare comparison left right).step (comparison.decide a b))
  | arithmetic operator left right => do
    let a ← left.evaluate
    let b ← right.evaluate
    (arithmetic operator left right).step (operator.decide a b)
  | call method receiver arguments =>
    let expr := call method receiver arguments
    match method with
    | .average => average expr receiver
    | .apply function => do
      let value ← receiver.evaluate
      if value.isNull then return .null
      expr.step (value.apply function)
    | .round => do
      let value ← receiver.evaluate
      if value.isNull then return .null
      match ← argument expr arguments 0 with
      | .int32 places => expr.step (value.round places.toInt)
      | _ => throw (.unsupported expr .roundDigitsNotInt32)
    | .test .between => do
      let value ← receiver.evaluate
      let low ← argument expr arguments 0
      let high ← argument expr arguments 1
      return .bool (← expr.step (Test.decideBetween value low high))
    | .test .isIn => do
      let value ← receiver.evaluate
      return .bool (← membership expr value arguments)
    | .test test => do
      let value ← receiver.evaluate
      let other ← argument expr arguments 0
      return .bool (← expr.step (test.decideOne value other))

termination_by structural expr => expr

def argument (expr : Expr) : List Expr → Nat → Except Error Value
  | [], _ => .error (.unsupported expr .missingArgument)
  | first :: rest, index =>
    match index with
    | 0 => first.evaluate
    | index + 1 => argument expr rest index

termination_by structural arguments => arguments

def membership (expr : Expr) (value : Value) : List Expr → Except Error Bool
  | [] => .error (.unsupported expr .missingArgument)
  | first :: _ => hasItem expr value first

termination_by structural arguments => arguments

def hasItem (expr : Expr) (value : Value) : Expr → Except Error Bool
  | list items => anyEqual expr value items
  | _ => .error (.unsupported expr .listExpected)

termination_by structural list => list

/-- Whether the value equals one of the items, which are evaluated up to the first that it does. -/
def anyEqual (expr : Expr) (value : Value) : List Expr → Except Error Bool
  | [] => .ok false
  | first :: rest => do
    let item ← first.evaluate
    if ← expr.step (Comparison.decide .equal value item) then
      return true
    else
      anyEqual expr value rest

termination_by structural items => items

def average (expr : Expr) : Expr → Except Error Value
  | list items =>
    if anyBound items then .error (.unsupported expr .averageOverColumns)
    else averageOf expr items 0 0
  | _ => .error (.unsupported expr .averageOfNonList)

termination_by structural list => list

/-- The mean of the items that are not null, given the sum and the count of those before them. -/
def averageOf (expr : Expr) : List Expr → Float → Nat → Except Error Value
  | [], sum, count => .ok (if count = 0 then .null else .double (sum / count.toFloat))
  | first :: rest, sum, count => do
    let value ← first.evaluate
    if value.isNull then
      averageOf expr rest sum count
    else
      match Numeric.ofValue? value with
      | some number => averageOf expr rest (sum + number.toDouble) (count + 1)
      | none => throw (.unsupported expr .averageOfNonNumbers)
termination_by structural items => items

end

def evaluateBool (expr : Expr) : Except Error Bool := do
  expr.asBool (← expr.evaluate)

end Expr

end TypedSql
