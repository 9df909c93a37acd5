import TypedSql.Proofs.Compilation.Run

namespace TypedSql

/-- Outcomes that are the same error or related results. -/
inductive Except.Agrees {ε α β : Type} (R : α → β → Prop) : Except ε α → Except ε β → Prop where
  | error (error : ε) : Agrees R (.error error) (.error error)
  | ok {a : α} {b : β} (related : R a b) : Agrees R (.ok a) (.ok b)

namespace Parameters

/-- What was recorded between two states of parameters is, but for its names, what was recorded
between two others. -/
def RecordAlike (before after other afterOther : Parameters) : Prop :=
  ∃ added addedOther, before.Extends after added ∧ other.Extends afterOther addedOther ∧
    added.map Parameter.value = addedOther.map Parameter.value

namespace RecordAlike

theorem refl (before other : Parameters) : RecordAlike before before other other :=
  ⟨[], [], .refl before, .refl other, rfl⟩

theorem trans {before middle after other middleOther afterOther : Parameters}
    (first : RecordAlike before middle other middleOther)
    (last : RecordAlike middle after middleOther afterOther) :
    RecordAlike before after other afterOther := by
  obtain ⟨added, addedOther, extension, extensionOther, same⟩ := first
  obtain ⟨more, moreOther, further, furtherOther, sameMore⟩ := last
  refine ⟨added ++ more, addedOther ++ moreOther, extension.trans further,
    extensionOther.trans furtherOther, ?_⟩
  rw [List.map_append, List.map_append, same, sameMore]

theorem allocate (before other : Parameters) (column columnOther : String) (value : Value) :
    RecordAlike before (before.allocate column value).2 other
      (other.allocate columnOther value).2 :=
  ⟨_, _, before.allocate_extends column value, other.allocate_extends columnOther value, rfl⟩

end RecordAlike

end Parameters

namespace Compile

open Parameters (RecordAlike)

variable {α β γ δ : Type}

/-- Whatever parameters each step finds, both have the same error or related results, and record the
same values. -/
def Aligned (R : α → β → Prop) (first : Compile α) (second : Compile β) : Prop :=
  ∀ before other : Parameters, Except.Agrees R (first before).1 (second other).1 ∧
    RecordAlike before (first before).2 other (second other).2

namespace Aligned

variable {R : α → β → Prop}

theorem pure {a : α} {b : β} (related : R a b) :
    Aligned R (Pure.pure a : Compile α) (Pure.pure b) :=
  fun before other => ⟨.ok related, .refl before other⟩

theorem fail (expr : Expr) (reason : Unsupported) :
    Aligned R (Compile.fail expr reason) (Compile.fail expr reason) :=
  fun before other => ⟨.error _, .refl before other⟩

theorem lift {first : Except Error α} {second : Except Error β}
    (agrees : Except.Agrees R first second) :
    Aligned R (liftM first : Compile α) (liftM second) :=
  fun before other => ⟨agrees, .refl before other⟩

theorem same (step : Except Error α) : Aligned Eq (liftM step : Compile α) (liftM step) := by
  refine lift ?_
  cases step with
  | error error => exact .error error
  | ok a => exact .ok rfl

theorem bind {S : γ → δ → Prop} {first : Compile α} {second : Compile β} {next : α → Compile γ}
    {nextOther : β → Compile δ} (aligned : Aligned R first second)
    (rest : ∀ a b, R a b → Aligned S (next a) (nextOther b)) :
    Aligned S (first >>= next) (second >>= nextOther) := by
  intro before other
  obtain ⟨agrees, alike⟩ := aligned before other
  change Except.Agrees S (ExceptT.bindCont next (first before).1 (first before).2).1
      (ExceptT.bindCont nextOther (second other).1 (second other).2).1 ∧
    RecordAlike before (ExceptT.bindCont next (first before).1 (first before).2).2 other
      (ExceptT.bindCont nextOther (second other).1 (second other).2).2
  generalize first before = outcome, second other = outcomeOther at agrees alike ⊢
  obtain ⟨_, middle⟩ := outcome
  obtain ⟨_, middleOther⟩ := outcomeOther
  cases agrees with
  | error error => exact ⟨.error error, alike⟩
  | ok related =>
    obtain ⟨agreesRest, alikeRest⟩ := rest _ _ related middle middleOther
    exact ⟨agreesRest, alike.trans alikeRest⟩

theorem map {S : γ → δ → Prop} {first : Compile α} {second : Compile β} {change : α → γ}
    {changeOther : β → δ} (aligned : Aligned R first second)
    (kept : ∀ a b, R a b → S (change a) (changeOther b)) :
    Aligned S (change <$> first) (changeOther <$> second) := by
  rw [map_eq_pure_bind, map_eq_pure_bind]
  exact aligned.bind fun a b related => pure (kept a b related)

theorem mapM {step : α → Compile γ} {stepOther : β → Compile δ} {S : γ → δ → Prop}
    {items : List α} {others : List β} (related : List.Forall₂ R items others)
    (each : ∀ a b, R a b → Aligned S (step a) (stepOther b)) :
    Aligned (List.Forall₂ S) (items.mapM step) (others.mapM stepOther) := by
  induction related with
  | nil =>
    rw [List.mapM_nil, List.mapM_nil]
    exact pure .nil
  | cons first _ ih =>
    rw [List.mapM_cons, List.mapM_cons]
    exact (each _ _ first).bind fun c d head => ih.bind fun cs ds tail => pure (.cons head tail)

end Aligned

end Compile

end TypedSql
