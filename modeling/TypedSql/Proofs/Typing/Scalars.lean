import TypedSql.Proofs.Typing.Values

namespace TypedSql

/-- How expressions over operands of fitting types are refused. Among the numbers only the least
integers have no absolute value, and what a test asks for a text is none only if it is null. -/
inductive Refused : Expr → Unsupported → Prop where
  | arithmeticOverColumns {expr : Expr} : Refused expr .arithmeticOverColumns
  | arithmeticOverflow {expr : Expr} : Refused expr .arithmeticOverflow
  | orderingWithNull {expr : Expr} : Refused expr .orderingWithNull
  | nullArgument {expr : Expr} : Refused expr .nullArgument
  | negativeRoundDigits {expr : Expr} : Refused expr .negativeRoundDigits
  | absOfLeast {receiver : Expr} {arguments : List Expr} {value : Value}
      (evaluated : receiver.evaluate = .ok value)
      (least : value = .int32 Int32.minValue ∨ value = .int64 Int64.minValue) :
      Refused (.call (.apply .abs) receiver arguments) .absOfNonNumber
  | textTooLong {expr : Expr} : Refused expr .textTooLong
  | averageOfNonNumbers {expr : Expr} : Refused expr .averageOfNonNumbers
  | textOfNull {kind : Test} {receiver : Expr} {arguments : List Expr}
      (evaluated : receiver.evaluate = .ok .null) :
      Refused (.call (.test kind) receiver arguments) .textMethodOnNonText
  | invalidPattern {expr : Expr} : Refused expr .invalidPattern

/-- An error that says of an expression why it is refused. -/
def Error.IsRefusal (error : Error) : Prop :=
  ∃ expr reason, error = .unsupported expr reason ∧ Refused expr reason

theorem Except.Safe.step {α : Type} {expr : Expr} {allowed : Unsupported → Prop} {post : α → Prop}
    {result : Except Unsupported α} (safe : Except.Safe allowed post result)
    (refused : ∀ reason, allowed reason → Refused expr reason) :
    Except.Safe Error.IsRefusal post (expr.step result) :=
  safe.mapError fun reason failed => ⟨expr, reason, rfl, refused reason failed⟩

theorem Value.fits_of_admits {type : ColumnType} {value : Value}
    (admitted : type.admits value = true) : value.Fits type.field := by
  unfold ColumnType.admits at admitted
  split at admitted
  · rename_i field isField
    rw [beq_iff_eq.mp admitted] at isField
    exact .inr isField
  · rename_i none
    left
    cases value <;> first | rfl | cases none

theorem Expr.averageOf_safe (expr : Expr) (values : List Value) (sum : Float) (count : Nat) :
    Except.Safe Error.IsRefusal (Value.Fits .double)
      (averageOf expr (values.map .literal) sum count) := by
  induction values generalizing sum count with
  | nil =>
    rw [List.map_nil, averageOf]
    split
    · exact .inl rfl
    · exact .inr rfl
  | cons first rest ih =>
    rw [List.map_cons, averageOf, evaluate]
    change Except.Safe _ _ (if first.isNull = true then _ else _)
    split
    · exact ih sum count
    · split
      · exact ih _ _
      · exact ⟨_, _, rfl, .averageOfNonNumbers⟩

theorem Expr.anyBound_eq_any (items : List Expr) : anyBound items = items.any isBound := by
  induction items with
  | nil => rfl
  | cons first rest ih => rw [anyBound, ih, List.any_cons]

theorem Expr.anyBound_literals (values : List Value) :
    anyBound (values.map .literal) = false := by
  simp [anyBound_eq_any, isBound]

namespace Scalar

variable {table : Table} {type : ColumnType}

theorem evaluate_safe (scalar : Scalar table type) (free : scalar.expr.isBound = false) :
    Except.Safe Error.IsRefusal (Value.Fits type.field) scalar.expr.evaluate := by
  induction scalar with
  | column name => cases free
  | literal value admitted => exact Value.fits_of_admits admitted
  | @apply type function argument accepted ih =>
    have freeArgument : argument.expr.isBound = false := by
      simpa [expr, Expr.isBound, Expr.anyBound] using free
    rw [expr, Expr.evaluate]
    refine (ih freeArgument).bind fun value evaluated fits => ?_
    split
    · exact .inl rfl
    · rename_i present
      refine (Value.apply_safe type accepted (fits.present present)).step fun reason failed => ?_
      cases reason with
      | textTooLong => exact .textTooLong
      | absOfNonNumber =>
        obtain ⟨rfl, least⟩ := failed
        exact .absOfLeast evaluated least
      | _ => exact failed.elim
  | @round type argument places numeric ih =>
    have freeArgument : argument.expr.isBound = false := by
      simpa [expr, Expr.isBound, Expr.anyBound] using free
    rw [expr, Expr.evaluate]
    refine (ih freeArgument).bind fun value _ fits => ?_
    split
    · exact .inl rfl
    · rename_i present
      refine (Value.round_safe numeric (fits.present present)).step fun reason failed => ?_
      rw [failed]
      exact .negativeRoundDigits
  | arithmetic operator left right numeric ihLeft ihRight =>
    simp only [expr, Expr.isBound, Bool.or_eq_false_iff] at free
    rw [expr, Expr.evaluate]
    refine (ihLeft free.1).bind fun a _ first => (ihRight free.2).bind fun b _ second => ?_
    refine (Arithmetic.decide_safe numeric first second).step fun reason failed => ?_
    rw [failed]
    exact .arithmeticOverflow
  | average values =>
    rw [expr, Expr.evaluate, Expr.average, Expr.anyBound_literals]
    exact Expr.averageOf_safe _ values 0 0

end Scalar

end TypedSql
