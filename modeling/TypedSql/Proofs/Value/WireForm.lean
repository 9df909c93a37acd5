import TypedSql.Value.Conversion
import TypedSql.Proofs.Value.DecimalText
import TypedSql.Proofs.Value.GuidText
import TypedSql.Proofs.Value.MomentText

namespace TypedSql

open Float.Model (UnpackedFloat)

theorem UnpackedFloat.compare_self {value : UnpackedFloat} (number : value.isNaN = false) :
    value.compare value = some .eq := by
  cases value with
  | notANumber => cases number
  | infinity sign => cases sign <;> rfl
  | zero sign => rfl
  | finite sign mantissa exponent =>
    have sameExponent : Ord.compare exponent exponent = .eq := Std.ReflCmp.compare_self
    have sameMantissa : Ord.compare mantissa mantissa = .eq := Std.ReflCmp.compare_self
    have same : (Ord.compare exponent exponent).then (Ord.compare mantissa mantissa) = .eq := by
      rw [sameExponent, sameMantissa]
      rfl
    cases sign with
    | positive => exact congrArg some same
    | negative => exact congrArg (fun order => some order.swap) same

theorem Number.Decimal.compare_plain (value : Number.Decimal) :
    value.compare value.plain = .eq := by
  have signed : value.plain.signed = value.signed := by
    cases value with
    | mk negative coefficient scale =>
      cases negative <;> by_cases zero : coefficient = 0 <;>
        simp [Number.Decimal.plain, Number.Decimal.signed, zero]
  have units : value.plain.units = value.units := by
    rw [Number.Decimal.units, signed]
    rfl
  rw [Number.Decimal.compare, units]
  exact Std.ReflCmp.compare_self

namespace Value

/-- Equality of what fields hold. Numbers are equal as numbers: there is one zero, trailing zeros of
a decimal do not count, and what is not a number is equal to nothing. -/
def Same : Value → Value → Prop
  | single a, single b => a == b
  | double a, double b => a == b
  | decimal a, decimal b => a.compare b = .eq
  | a, b => a = b

def isNaN : Value → Bool
  | single value => value.isNaN
  | double value => value.isNaN
  | _ => false

/-- The form in which a value comes from a database whose integers have 64 bits and that keeps
decimals, identifiers and moments as text. -/
def wire : Value → Value
  | bool value => int64 (if value then 1 else 0)
  | int32 value => int64 value.toInt64
  | decimal value => string value.text
  | guid value => string value.text
  | datetime value => string value.text
  | value => value

/-- The value that its wire form names: a zero decimal without a sign, and the next second for a
leap second within a minute. -/
def named : Value → Value
  | decimal value => decimal value.plain
  | datetime value => datetime value.named
  | value => value

def IsInnerLeap : Value → Prop
  | datetime value => value.IsInnerLeap
  | _ => False

variable {value : Value} {field : FieldType}

theorem same_self (number : value.isNaN = false) : value.Same value := by
  cases value with
  | single value =>
    change (value.toModel.unpack.compare value.toModel.unpack == some .eq) = true
    rw [UnpackedFloat.compare_self number]
    rfl
  | double value =>
    change (value.toModel.unpack.compare value.toModel.unpack == some .eq) = true
    rw [UnpackedFloat.compare_self number]
    rfl
  | decimal value =>
    change compare value.units value.units = .eq
    exact Std.ReflCmp.compare_self
  | _ => rfl

/-- A wire form keeps all values but the leap seconds within a minute. -/
theorem same_named_iff (number : value.isNaN = false) :
    value.Same value.named ↔ ¬ value.IsInnerLeap := by
  cases value with
  | decimal value => exact iff_of_true value.compare_plain not_false
  | datetime value =>
    change datetime value = datetime value.named ↔ ¬ value.IsInnerLeap
    rw [datetime.injEq, eq_comm, DateTime.named_eq_iff]
  | _ => exact iff_of_true (same_self number) not_false

theorem named_of_wire_eq (same : value.wire = value) : value.named = value := by
  cases value with
  | decimal | datetime => cases same
  | _ => rfl

theorem wire_ne_of_isInnerLeap (inner : value.IsInnerLeap) : value.wire ≠ value := by
  cases value with
  | datetime value =>
    intro same
    cases same
  | _ => exact inner.elim

theorem convert_own (typed : value.fieldType? = some field) : value.convert field = .ok value := by
  cases value <;> cases typed <;> rfl

theorem toInt32?_toInt64 (value : Int32) : toInt32? value.toInt64 = some value := by
  have low := value.le_toInt
  have high := value.toInt_lt
  rw [toInt32?, Int32.toInt_toInt64, if_pos (by omega), Int32.toInt32_toInt64]

theorem convert_wire (typed : value.fieldType? = some field) :
    value.wire.convert field = .ok value.named := by
  cases value with
  | null => cases typed
  | bool value => cases typed; cases value <;> rfl
  | int32 value =>
    cases typed
    simp [wire, convert, convertPresent, toInt32?_toInt64, named]
  | decimal value =>
    cases typed
    simp [wire, convert, convertPresent, Number.Decimal.parse?_text, named]
  | guid value =>
    cases typed
    simp [wire, convert, convertPresent, Guid.parse?_text, named]
  | datetime value =>
    cases typed
    simp [wire, convert, convertPresent, DateTime.parse?_text, named]
  | _ => cases typed; rfl

end Value

end TypedSql
