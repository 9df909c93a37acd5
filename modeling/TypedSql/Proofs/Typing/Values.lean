import TypedSql.Expr.Evaluation
import TypedSql.Expr.Scalar
import TypedSql.Proofs.Except

namespace TypedSql

namespace Except

variable {ε ε' α β : Type} {allowed : ε → Prop} {post other : α → Prop}

/-- A step that yields what is wanted or fails in an allowed way. -/
def Safe (allowed : ε → Prop) (post : α → Prop) : Except ε α → Prop
  | .ok a => post a
  | .error error => allowed error

theorem Safe.bind {step : Except ε α} {next : α → Except ε β} {last : β → Prop}
    (first : Safe allowed post step)
    (rest : ∀ a, step = .ok a → post a → Safe allowed last (next a)) :
    Safe allowed last (step >>= next) := by
  cases step with
  | error => exact first
  | ok a => exact rest a rfl first

theorem Safe.mapError {step : Except ε α} {allowed' : ε' → Prop} {change : ε → ε'}
    (safe : Safe allowed post step) (changed : ∀ error, allowed error → allowed' (change error)) :
    Safe allowed' post (step.mapError change) := by
  cases step with
  | error error => exact changed error safe
  | ok a => exact safe

theorem Safe.weaken {step : Except ε α} {more : ε → Prop} (safe : Safe allowed post step)
    (within : ∀ error, allowed error → more error) : Safe more post step := by
  cases step with
  | error error => exact within error safe
  | ok a => exact safe

end Except

namespace FieldType

theorem eq_of_isTextual {type : FieldType} (textual : type.isTextual = true) : type = .string := by
  cases type <;> first | rfl | cases textual

theorem eq_of_isTemporal {type : FieldType} (temporal : type.isTemporal = true) :
    type = .datetime := by
  cases type <;> first | rfl | cases temporal

end FieldType

namespace Value

/-- A value of the type or null, which is at home in every type. -/
def Fits (type : FieldType) (value : Value) : Prop :=
  value = .null ∨ value.fieldType? = some type

theorem isNull_iff {value : Value} : value.isNull = true ↔ value = .null := by
  cases value <;> simp [isNull]

theorem Fits.present {type : FieldType} {value : Value} (fits : value.Fits type)
    (present : ¬value.isNull = true) : value.fieldType? = some type :=
  fits.resolve_left fun null => present (isNull_iff.mpr null)

end Value

namespace Numeric

def fieldType : Numeric → FieldType
  | int32 _ => .int32
  | int64 _ => .int64
  | single _ => .single
  | double _ => .double
  | decimal _ => .decimal

theorem fieldType?_toValue (number : Numeric) :
    number.toValue.fieldType? = some number.fieldType := by
  cases number <;> rfl

theorem exists_ofValue? {type : FieldType} {value : Value} (numeric : type.isNumeric = true)
    (isType : value.fieldType? = some type) :
    ∃ number, ofValue? value = some number ∧ number.fieldType = type ∧ number.toValue = value := by
  cases value with
  | int32 | int64 | single | double | decimal =>
    cases isType
    exact ⟨_, rfl, rfl, rfl⟩
  | null => cases isType
  | bool | string | guid | datetime | bytes =>
    cases isType
    cases numeric

theorem ofInt32?_fieldType {value : Int} {result : Numeric} (fits : ofInt32? value = some result) :
    result.fieldType = .int32 := by
  unfold ofInt32? at fits
  split at fits
  · cases fits
    rfl
  · cases fits

theorem ofInt64?_fieldType {value : Int} {result : Numeric} (fits : ofInt64? value = some result) :
    result.fieldType = .int64 := by
  unfold ofInt64? at fits
  split at fits
  · cases fits
    rfl
  · cases fits

theorem calculate?_fieldType {operator : Arithmetic} {left right result : Numeric}
    (same : left.fieldType = right.fieldType)
    (calculated : calculate? operator left right = some result) :
    result.fieldType = left.fieldType := by
  cases left <;> cases right <;> cases same
  all_goals simp only [calculate?, isDecimal, Bool.or_self, Bool.false_eq_true, if_false, toInt?,
    isDouble, Option.map_eq_some_iff] at calculated
  · obtain ⟨exact, _, fits⟩ := Option.bind_eq_some_iff.mp calculated
    exact ofInt32?_fieldType fits
  · obtain ⟨exact, _, fits⟩ := Option.bind_eq_some_iff.mp calculated
    exact ofInt64?_fieldType fits
  · obtain ⟨_, _, rfl⟩ := calculated
    rfl
  · obtain ⟨_, _, rfl⟩ := calculated
    rfl
  · simp only [if_true, Option.bind_eq_bind, Option.bind_eq_some_iff] at calculated
    obtain ⟨_, _, _, _, _, _, same⟩ := calculated
    cases same
    rfl

theorem abs?_fieldType {number result : Numeric} (found : number.abs? = some result) :
    result.fieldType = number.fieldType := by
  cases number with
  | int32 value => exact ofInt32?_fieldType found
  | int64 value => exact ofInt64?_fieldType found
  | single value | double value | decimal value =>
    cases found
    rfl

/-- Only the least integers have no absolute value of their type. -/
theorem abs?_eq_none {number : Numeric} (none : number.abs? = none) :
    number = .int32 Int32.minValue ∨ number = .int64 Int64.minValue := by
  cases number with
  | int32 value =>
    simp only [abs?, ofInt32?, ite_eq_right_iff, reduceCtorEq, imp_false] at none
    have least : value.toInt = Int32.minValue.toInt := by
      have lower := value.le_toInt
      have upper := value.toInt_lt
      have minimum : Int32.minValue.toInt = -2147483648 := rfl
      omega
    exact .inl (congrArg int32 (Int32.toInt_inj.mp least))
  | int64 value =>
    simp only [abs?, ofInt64?, ite_eq_right_iff, reduceCtorEq, imp_false] at none
    have least : value.toInt = Int64.minValue.toInt := by
      have lower := value.le_toInt
      have upper := value.toInt_lt
      have minimum : Int64.minValue.toInt = -9223372036854775808 := rfl
      omega
    exact .inr (congrArg int64 (Int64.toInt_inj.mp least))
  | single value | double value | decimal value => cases none

theorem round?_fieldType {places : Int} {number result : Numeric}
    (rounded : number.round? places = some result) : result.fieldType = number.fieldType := by
  cases number with
  | single value | double value =>
    cases rounded
    rfl
  | decimal value | int32 value | int64 value =>
    simp only [round?] at rounded
    split at rounded
    · cases rounded
    · cases rounded
      rfl

end Numeric

variable {type : FieldType}

theorem Comparison.decide_safe {comparison : Comparison} {left right : Value}
    (first : left.Fits type) (second : right.Fits type) :
    Except.Safe (fun reason => reason = .orderingWithNull ∧ comparison.isOrdering = true)
      (fun _ => True) (comparison.decide left right) := by
  unfold decide
  split
  · cases comparison with
    | equal | notEqual => trivial
    | greater | greaterOrEqual | less | lessOrEqual => exact ⟨rfl, rfl⟩
  · rename_i present
    simp only [Bool.or_eq_true, not_or] at present
    have comparable : left.isComparable right = true := by
      simp [Value.isComparable, first.present present.1, second.present present.2]
    rw [comparable]
    simp only [Bool.not_true, Bool.false_eq_true, if_false]
    split
    · trivial
    · trivial

theorem Arithmetic.decide_safe {operator : Arithmetic} {left right : Value}
    (numeric : type.isNumeric = true) (first : left.Fits type) (second : right.Fits type) :
    Except.Safe (fun reason => reason = .arithmeticOverflow) (Value.Fits type)
      (operator.decide left right) := by
  unfold decide
  split
  · exact .inl rfl
  · rename_i present
    simp only [Bool.or_eq_true, not_or] at present
    obtain ⟨a, isA, typeA, _⟩ := Numeric.exists_ofValue? numeric (first.present present.1)
    obtain ⟨b, isB, typeB, _⟩ := Numeric.exists_ofValue? numeric (second.present present.2)
    split
    · cases isA
    · simp only [isA, isB]
      split
      · rename_i result calculated
        have kept := Numeric.calculate?_fieldType (typeA.trans typeB.symm) calculated
        right
        rw [Numeric.fieldType?_toValue, kept, typeA]
      · rfl

namespace Value

theorem asText_safe {value : Value} (textual : value.Fits .string) :
    Except.Safe (fun reason => reason = .textMethodOnNonText ∧ value = .null) (fun _ => True)
      value.asText := by
  cases value with
  | null => exact ⟨rfl, rfl⟩
  | string text => trivial
  | _ => exact textual.elim nofun nofun

theorem exists_asText {value : Value} (textual : value.fieldType? = some .string) :
    ∃ text, value.asText = .ok text := by
  cases value with
  | string text => exact ⟨text, rfl⟩
  | _ => cases textual

theorem datePart_safe {allowed : Unsupported → Prop} {part : DateTime → Int} {value : Value}
    (temporal : value.fieldType? = some .datetime) :
    Except.Safe allowed (Fits .int32) (value.datePart part) := by
  cases value with
  | datetime moment => exact .inr rfl
  | _ => cases temporal

/-- How a function of a value that it accepts can fail. -/
def ApplyRefused (function : Function) (value : Value) : Unsupported → Prop
  | .textTooLong => True
  | .absOfNonNumber =>
    function = .abs ∧ (value = .int32 Int32.minValue ∨ value = .int64 Int64.minValue)
  | _ => False

theorem apply_safe {function : Function} {value : Value} (column : ColumnType)
    (accepted : function.accepts column.field = true)
    (isType : value.fieldType? = some column.field) :
    Except.Safe (ApplyRefused function value) (Fits (function.result column).field)
      (value.apply function) := by
  cases function with
  | upper | lower | trim =>
    have textual := FieldType.eq_of_isTextual accepted
    obtain ⟨text, isText⟩ := exists_asText (textual ▸ isType)
    rw [apply, isText]
    exact .inr (congrArg some textual.symm)
  | length =>
    have textual := FieldType.eq_of_isTextual accepted
    obtain ⟨text, isText⟩ := exists_asText (textual ▸ isType)
    have read : Except.Safe (ApplyRefused .length value) (fun _ => True) value.asText := by
      rw [isText]
      trivial
    unfold apply
    refine read.bind fun text _ _ => ?_
    split
    · rename_i length fits
      right
      rw [Numeric.fieldType?_toValue, Numeric.ofInt32?_fieldType fits]
      rfl
    · trivial
  | abs =>
    obtain ⟨number, isNumber, sameType, same⟩ := Numeric.exists_ofValue? accepted isType
    rw [apply, isNumber, Option.bind_some]
    split
    · rename_i result found
      right
      rw [Numeric.fieldType?_toValue, Numeric.abs?_fieldType found, sameType]
      rfl
    · rename_i none
      rw [← same]
      rcases Numeric.abs?_eq_none none with rfl | rfl
      · exact ⟨rfl, .inl rfl⟩
      · exact ⟨rfl, .inr rfl⟩
  | year | month | day =>
    have temporal : column.field = .datetime := FieldType.eq_of_isTemporal accepted
    rw [temporal] at isType
    unfold apply
    exact datePart_safe isType

theorem round_safe {value : Value} {places : Int} (numeric : type.isNumeric = true)
    (isType : value.fieldType? = some type) :
    Except.Safe (fun reason => reason = .negativeRoundDigits) (Fits type) (value.round places) := by
  obtain ⟨number, isNumber, sameType, _⟩ := Numeric.exists_ofValue? numeric isType
  unfold round
  rw [isNumber]
  dsimp only
  split
  · rename_i result rounded
    right
    rw [Numeric.fieldType?_toValue, Numeric.round?_fieldType rounded, sameType]
  · rfl

end Value

end TypedSql
