import TypedSql.Predicate.Compilation
import TypedSql.Proofs.Typing.Values

namespace TypedSql.Compile

variable {α β : Type} {allowed : Error → Prop}

/-- A step that fails in an allowed way at most, whatever was recorded before. -/
def FailsAs (allowed : Error → Prop) (step : Compile α) : Prop :=
  ∀ before, Except.Safe allowed (fun _ => True) (step before).1

namespace FailsAs

theorem pure (a : α) : FailsAs allowed (Pure.pure a : Compile α) :=
  fun _ => trivial

theorem fail {expr : Expr} {reason : Unsupported} (refused : allowed (.unsupported expr reason)) :
    FailsAs allowed (fail expr reason : Compile α) :=
  fun _ => refused

theorem lift {step : Except Error α} {post : α → Prop} (safe : Except.Safe allowed post step) :
    FailsAs allowed (liftM step : Compile α) := by
  intro before
  change Except.Safe allowed (fun _ => True) step
  cases step with
  | error => exact safe
  | ok a => trivial

theorem parameter (column : Option String) (value : Value) :
    FailsAs allowed (parameter column value) :=
  fun _ => trivial

theorem bind {step : Compile α} {next : α → Compile β} (first : FailsAs allowed step)
    (last : ∀ a, FailsAs allowed (next a)) : FailsAs allowed (step >>= next) := by
  intro before
  change Except.Safe allowed (fun _ => True)
    (ExceptT.bindCont next (step before).1 (step before).2).1
  have safe := first before
  generalize step before = outcome at safe ⊢
  rcases outcome with ⟨error | a, middle⟩
  · exact safe
  · exact last a middle

theorem map {step : Compile α} (change : α → β) (first : FailsAs allowed step) :
    FailsAs allowed (change <$> step) := by
  rw [map_eq_pure_bind]
  exact first.bind fun a => pure (change a)

theorem mapM {step : α → Compile β} {items : List α}
    (each : ∀ a ∈ items, FailsAs allowed (step a)) : FailsAs allowed (items.mapM step) := by
  induction items with
  | nil =>
    rw [List.mapM_nil]
    exact pure []
  | cons first rest ih =>
    obtain ⟨head, tail⟩ := List.forall_mem_cons.mp each
    rw [List.mapM_cons]
    exact head.bind fun b => (ih tail).bind fun bs => pure (b :: bs)

end FailsAs

end TypedSql.Compile
