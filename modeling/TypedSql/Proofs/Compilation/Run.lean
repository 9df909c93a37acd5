import Mathlib.Data.List.Forall2
import TypedSql.Predicate.Compilation
import TypedSql.Proofs.Parameters

namespace TypedSql.Compile

variable {α β : Type} {before after : Parameters}

theorem bind_ok {step : Compile α} {next : α → Compile β} {result : β} :
    (step >>= next) before = (.ok result, after) ↔
      ∃ a middle, step before = (.ok a, middle) ∧ next a middle = (.ok result, after) := by
  change ExceptT.bindCont next (step before).1 (step before).2 = _ ↔ _
  rcases step before with ⟨error | a, middle⟩
  · constructor
    · intro failed
      cases failed
    · rintro ⟨a, other, failed, _⟩
      cases failed
  · constructor
    · exact fun last => ⟨a, middle, rfl, last⟩
    · rintro ⟨_, _, first, last⟩
      cases first
      exact last

theorem bind_error {step : Compile α} {next : α → Compile β} {error : Error} :
    (step >>= next) before = (.error error, after) ↔
      step before = (.error error, after) ∨
        ∃ a middle, step before = (.ok a, middle) ∧ next a middle = (.error error, after) := by
  change ExceptT.bindCont next (step before).1 (step before).2 = _ ↔ _
  rcases step before with ⟨failed | a, middle⟩
  · constructor
    · intro first
      cases first
      exact .inl rfl
    · rintro (first | ⟨_, _, first, _⟩)
      · cases first
        rfl
      · cases first
  · constructor
    · exact fun last => .inr ⟨a, middle, rfl, last⟩
    · rintro (first | ⟨_, _, first, last⟩)
      · cases first
      · cases first
        exact last

theorem pure_error {a : α} {error : Error} :
    (pure a : Compile α) before = (.error error, after) ↔ False := by
  change ((Except.ok a, before) : Except Error α × Parameters) = _ ↔ _
  simp

theorem map_error {step : Compile α} {change : α → β} {error : Error} :
    (change <$> step) before = (.error error, after) ↔ step before = (.error error, after) := by
  rw [map_eq_pure_bind, bind_error]
  simp only [pure_error, and_false, exists_false, or_false]

theorem pure_ok {a result : α} :
    (pure a : Compile α) before = (.ok result, after) ↔ a = result ∧ before = after := by
  change ((Except.ok a, before) : Except Error α × Parameters) = _ ↔ _
  simp

theorem map_ok {step : Compile α} {change : α → β} {result : β} :
    (change <$> step) before = (.ok result, after) ↔
      ∃ a, step before = (.ok a, after) ∧ change a = result := by
  rw [map_eq_pure_bind, bind_ok]
  constructor
  · rintro ⟨a, middle, first, last⟩
    obtain ⟨rfl, rfl⟩ := pure_ok.mp last
    exact ⟨a, first, rfl⟩
  · rintro ⟨a, first, rfl⟩
    exact ⟨a, after, first, pure_ok.mpr ⟨rfl, rfl⟩⟩

theorem lift_ok {step : Except Error α} {result : α} :
    (liftM step : Compile α) before = (.ok result, after) ↔
      step = .ok result ∧ before = after := by
  change ((step, before) : Except Error α × Parameters) = _ ↔ _
  simp

theorem fail_ok {expr : Expr} {reason : Unsupported} {result : α} :
    (fail expr reason : Compile α) before = (.ok result, after) ↔ False := by
  change ((Except.error _, before) : Except Error α × Parameters) = _ ↔ _
  simp

theorem parameter_ok {column : Option String} {value : Value} {result : Operand} :
    parameter column value before = (.ok result, after) ↔
      .parameter (before.allocate (column.getD "p") value).1 value = result ∧
        (before.allocate (column.getD "p") value).2 = after := by
  change ((Except.ok (Operand.parameter (before.allocate (column.getD "p") value).1 value),
    (before.allocate (column.getD "p") value).2) : Except Error Operand × Parameters) = _ ↔ _
  simp only [Prod.mk.injEq, Except.ok.injEq]

/-- Steps over a list succeed one by one, and record what each of them does. -/
theorem mapM_ok (step : α → Compile β) {R : α → β → Prop} {added : β → List Parameter}
    (each : ∀ a b before after, step a before = (.ok b, after) →
      R a b ∧ Parameters.Extends before after (added b))
    {items : List α} {results : List β} (compiled : items.mapM step before = (.ok results, after)) :
    List.Forall₂ R items results ∧ Parameters.Extends before after (results.flatMap added) := by
  induction items generalizing before results with
  | nil =>
    rw [List.mapM_nil] at compiled
    obtain ⟨rfl, rfl⟩ := pure_ok.mp compiled
    exact ⟨.nil, .refl before⟩
  | cons first rest ih =>
    rw [List.mapM_cons] at compiled
    obtain ⟨result, middle, head, compiled⟩ := bind_ok.mp compiled
    obtain ⟨others, final, tail, compiled⟩ := bind_ok.mp compiled
    obtain ⟨rfl, rfl⟩ := pure_ok.mp compiled
    obtain ⟨related, extension⟩ := each _ _ _ _ head
    obtain ⟨relatedRest, further⟩ := ih tail
    exact ⟨.cons related relatedRest, extension.trans further⟩

/-- Steps over a list fail where the first of them fails. -/
theorem mapM_error {step : α → Compile β} {items : List α} {error : Error} :
    items.mapM step before = (.error error, after) ↔
      ∃ first item rest results middle, items = first ++ item :: rest ∧
        first.mapM step before = (.ok results, middle) ∧
          step item middle = (.error error, after) := by
  induction items generalizing before with
  | nil =>
    rw [List.mapM_nil, pure_error]
    simp
  | cons head tail ih =>
    rw [List.mapM_cons, bind_error]
    constructor
    · rintro (failed | ⟨result, middle, passed, failed⟩)
      · exact ⟨[], head, tail, [], before, rfl, pure_ok.mpr ⟨rfl, rfl⟩, failed⟩
      · have inTail : tail.mapM step middle = (.error error, after) := by
          simpa only [bind_error, pure_error, and_false, exists_false, or_false] using failed
        obtain ⟨first, item, rest, results, later, rfl, done, last⟩ := ih.mp inTail
        refine ⟨head :: first, item, rest, result :: results, later, rfl, ?_, last⟩
        rw [List.mapM_cons]
        exact bind_ok.mpr ⟨result, middle, passed, bind_ok.mpr ⟨results, later, done,
          pure_ok.mpr ⟨rfl, rfl⟩⟩⟩
    · rintro ⟨first, item, rest, results, later, split, done, last⟩
      cases first with
      | nil =>
        obtain ⟨rfl, rfl⟩ := List.cons.inj split
        obtain ⟨_, rfl⟩ := pure_ok.mp done
        exact .inl last
      | cons other first =>
        obtain ⟨rfl, rfl⟩ := List.cons.inj split
        rw [List.mapM_cons] at done
        obtain ⟨result, middle, passed, others⟩ := bind_ok.mp done
        obtain ⟨results, final, inFirst, same⟩ := bind_ok.mp others
        obtain ⟨_, rfl⟩ := pure_ok.mp same
        have inTail := ih.mpr ⟨first, item, rest, results, final, rfl, inFirst, last⟩
        exact .inr ⟨result, middle, passed, bind_error.mpr (.inl inTail)⟩

/-- The step records parameters behind those there are, whether it succeeds or not. -/
def Appends (step : Compile α) : Prop :=
  ∀ before : Parameters, ∃ added, before.Extends (step before).2 added

namespace Appends

theorem pure (a : α) : Appends (Pure.pure a : Compile α) :=
  fun before => ⟨[], .refl before⟩

theorem lift (step : Except Error α) : Appends (liftM step : Compile α) :=
  fun before => ⟨[], .refl before⟩

theorem fail (expr : Expr) (reason : Unsupported) : Appends (fail expr reason : Compile α) :=
  fun before => ⟨[], .refl before⟩

theorem parameter (column : Option String) (value : Value) :
    Appends (parameter column value) :=
  fun before => ⟨_, before.allocate_extends (column.getD "p") value⟩

theorem bind {step : Compile α} {next : α → Compile β} (first : Appends step)
    (last : ∀ a, Appends (next a)) : Appends (step >>= next) := by
  intro before
  obtain ⟨added, extension⟩ := first before
  change ∃ added, before.Extends
    (ExceptT.bindCont next (step before).1 (step before).2).2 added
  generalize step before = outcome at extension ⊢
  rcases outcome with ⟨error | a, middle⟩
  · exact ⟨added, extension⟩
  · obtain ⟨more, further⟩ := last a middle
    exact ⟨added ++ more, extension.trans further⟩

theorem map {step : Compile α} (change : α → β) (first : Appends step) :
    Appends (change <$> step) := by
  rw [map_eq_pure_bind]
  exact first.bind fun a => pure (change a)

theorem mapM {items : List α} {step : α → Compile β} (each : ∀ a, Appends (step a)) :
    Appends (items.mapM step) := by
  induction items with
  | nil =>
    rw [List.mapM_nil]
    exact pure []
  | cons first rest ih =>
    rw [List.mapM_cons]
    exact (each first).bind fun b => ih.bind fun bs => pure (b :: bs)

end Appends

end TypedSql.Compile
