import TypedSql.Expr.Evaluation

namespace TypedSql

inductive Width where
  | narrow
  | wide
  deriving DecidableEq, Repr

namespace Width

/-- The least number of a width is the negation of its bound, the greatest one lies below it. -/
def bound : Width → Int
  | narrow => 0x80000000
  | wide => 0x8000000000000000

def Fits (width : Width) (number : Int) : Prop :=
  -width.bound ≤ number ∧ number < width.bound

instance (width : Width) (number : Int) : Decidable (width.Fits number) :=
  inferInstanceAs (Decidable (_ ∧ _))

def join : Width → Width → Width
  | narrow, narrow => narrow
  | _, _ => wide

/-- The number is the value of an integer of the width. -/
inductive Holds : Width → Int → Value → Prop where
  | int32 (value : Int32) : Holds narrow value.toInt (.int32 value)
  | int64 (value : Int64) : Holds wide value.toInt (.int64 value)

def ofInt? : Width → Int → Option Numeric
  | narrow => Numeric.ofInt32?
  | wide => Numeric.ofInt64?

variable {width : Width} {number : Int}

theorem exists_of_fits (fits : width.Fits number) :
    ∃ result, width.ofInt? number = some result ∧ width.Holds number result.toValue := by
  cases width with
  | narrow =>
    have holds := Holds.int32 (Int32.ofInt number)
    rw [Int32.toInt_ofInt_of_le fits.1 fits.2] at holds
    exact ⟨_, if_pos fits, holds⟩
  | wide =>
    have holds := Holds.int64 (Int64.ofInt number)
    rw [Int64.toInt_ofInt_of_le fits.1 fits.2] at holds
    exact ⟨_, if_pos fits, holds⟩

theorem ofInt?_eq_none (unfit : ¬width.Fits number) : width.ofInt? number = none := by
  cases width with
  | narrow => exact if_neg unfit
  | wide => exact if_neg unfit

end Width

namespace Arithmetic

/-- The exact result on integers. A quotient is cut towards zero, and there is none by zero. -/
inductive Yields : Arithmetic → Int → Int → Int → Prop where
  | add (a b : Int) : Yields .add a b (a + b)
  | sub (a b : Int) : Yields .sub a b (a - b)
  | mul (a b : Int) : Yields .mul a b (a * b)
  | div (a b : Int) (nonzero : b ≠ 0) : Yields .div a b (a.tdiv b)

variable {operator : Arithmetic} {a b number : Int}

theorem onInt?_eq_some_iff : operator.onInt? a b = some number ↔ operator.Yields a b number := by
  constructor
  · intro calculated
    cases operator with
    | add => cases calculated; exact .add a b
    | sub => cases calculated; exact .sub a b
    | mul => cases calculated; exact .mul a b
    | div =>
      simp only [onInt?] at calculated
      split at calculated
      · cases calculated
      · rename_i nonzero
        cases calculated
        exact .div a b nonzero
  · rintro (_ | _ | _ | ⟨_, _, nonzero⟩)
    · rfl
    · rfl
    · rfl
    · exact if_neg nonzero

variable {width width' : Width} {left right : Value}

/-- Two integers are calculated with as numbers, and the result is brought into the wider type. -/
theorem decide_integers (first : width.Holds a left) (second : width'.Holds b right) :
    operator.decide left right =
      match (operator.onInt? a b).bind (width.join width').ofInt? with
      | some result => .ok result.toValue
      | none => .error .arithmeticOverflow := by
  cases first <;> cases second <;> cases operator <;> rfl

theorem decide_of_yields (first : width.Holds a left) (second : width'.Holds b right)
    (yields : operator.Yields a b number) (fits : (width.join width').Fits number) :
    ∃ value, operator.decide left right = .ok value ∧ (width.join width').Holds number value := by
  obtain ⟨result, inRange, holds⟩ := Width.exists_of_fits fits
  refine ⟨result.toValue, ?_, holds⟩
  rw [decide_integers first second, onInt?_eq_some_iff.mpr yields, Option.bind_some, inRange]

theorem decide_of_unfit (first : width.Holds a left) (second : width'.Holds b right)
    (unfit : ∀ number, operator.Yields a b number → ¬(width.join width').Fits number) :
    operator.decide left right = .error .arithmeticOverflow := by
  have none : (operator.onInt? a b).bind (width.join width').ofInt? = none := by
    cases calculated : operator.onInt? a b with
    | none => rfl
    | some number => exact Width.ofInt?_eq_none (unfit number (onInt?_eq_some_iff.mp calculated))
  rw [decide_integers first second, none]

end Arithmetic

end TypedSql
