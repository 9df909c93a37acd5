import TypedSql.Proofs.Compilation.Clauses
import TypedSql.Proofs.Noninterference.Alike
import TypedSql.Proofs.Noninterference.Masking

namespace TypedSql

/-- What the names of further parameters depend on. -/
structure Parameters.NamedAlike (first second : Parameters) : Prop where
  names : first.names = second.names
  counter : first.counter = second.counter

theorem Parameters.NamedAlike.refl (parameters : Parameters) : parameters.NamedAlike parameters :=
  ⟨rfl, rfl⟩

theorem Parameters.NamedAlike.allocate {first second : Parameters}
    (alike : first.NamedAlike second) (column : String) (value other : Value) :
    (first.allocate column value).1 = (second.allocate column other).1 ∧
      (first.allocate column value).2.NamedAlike (second.allocate column other).2 := by
  have names := alike.names
  have counter := alike.counter
  simp only [Parameters.allocate, names, counter]
  refine ⟨trivial, ?_, rfl⟩
  simpa [Parameters.names] using alike.names

namespace Compile

variable {α β γ δ : Type}

/-- Where one step succeeds the other one does, with a related result and parameters of the same
names. -/
def Follows (R : α → β → Prop) (first : Compile α) (second : Compile β) : Prop :=
  ∀ ⦃before other after : Parameters⦄ ⦃a : α⦄, before.NamedAlike other →
    first before = (.ok a, after) →
    ∃ b afterOther, second other = (.ok b, afterOther) ∧ R a b ∧ after.NamedAlike afterOther

namespace Follows

variable {R : α → β → Prop}

theorem pure {a : α} {b : β} (related : R a b) :
    Follows R (Pure.pure a : Compile α) (Pure.pure b) := by
  intro before other after result alike done
  obtain ⟨rfl, rfl⟩ := pure_ok.mp done
  exact ⟨b, other, rfl, related, alike⟩

theorem fail {expr : Expr} {reason : Unsupported} {second : Compile β} :
    Follows R (Compile.fail expr reason) second := by
  intro before other after result alike done
  exact (fail_ok.mp done).elim

theorem lift {first : Except Error α} {second : Except Error β}
    (each : ∀ a, first = .ok a → ∃ b, second = .ok b ∧ R a b) :
    Follows R (liftM first : Compile α) (liftM second) := by
  intro before other after result alike done
  obtain ⟨isOk, rfl⟩ := lift_ok.mp done
  obtain ⟨b, isOkOther, related⟩ := each result isOk
  exact ⟨b, other, lift_ok.mpr ⟨isOkOther, rfl⟩, related, alike⟩

theorem bind {S : γ → δ → Prop} {first : Compile α} {second : Compile β} {next : α → Compile γ}
    {nextOther : β → Compile δ} (follows : Follows R first second)
    (rest : ∀ a b, R a b → Follows S (next a) (nextOther b)) :
    Follows S (first >>= next) (second >>= nextOther) := by
  intro before other after result alike done
  obtain ⟨a, middle, doneFirst, doneRest⟩ := bind_ok.mp done
  obtain ⟨b, middleOther, doneSecond, related, alikeMiddle⟩ := follows alike doneFirst
  obtain ⟨resultOther, afterOther, doneOther, relatedRest, alikeAfter⟩ :=
    rest a b related alikeMiddle doneRest
  exact ⟨resultOther, afterOther, bind_ok.mpr ⟨b, middleOther, doneSecond, doneOther⟩, relatedRest,
    alikeAfter⟩

theorem mapM {step : α → Compile γ} {stepOther : β → Compile δ} {S : γ → δ → Prop}
    {items : List α} {others : List β} (related : List.Forall₂ R items others)
    (each : ∀ a b, R a b → Follows S (step a) (stepOther b)) :
    Follows (List.Forall₂ S) (items.mapM step) (others.mapM stepOther) := by
  induction related with
  | nil =>
    rw [List.mapM_nil, List.mapM_nil]
    exact pure .nil
  | cons first _ ih =>
    rw [List.mapM_cons, List.mapM_cons]
    exact (each _ _ first).bind fun c d head => ih.bind fun cs ds tail => pure (.cons head tail)

end Follows

/-- Parameters of one name hide their values. -/
def Hides (first second : Operand) : Prop :=
  first.masked = second.masked

theorem parameter_follows (column : Option String) (value other : Value) :
    Follows Hides (parameter column value) (parameter column other) := by
  intro before otherBefore after result alike done
  obtain ⟨rfl, rfl⟩ := parameter_ok.mp done
  obtain ⟨name, alikeAfter⟩ := alike.allocate (column.getD "p") value other
  refine ⟨_, _, parameter_ok.mpr ⟨rfl, rfl⟩, ?_, alikeAfter⟩
  rw [Hides, Operand.masked, Operand.masked, name]

variable {scope : Scope}

theorem operand_of_operandIn {expr : Expr} {operand : Operand}
    (compiled : OperandIn scope expr operand) (before : Parameters) :
    Compile.operand scope expr before = (.ok operand, before) := by
  have wrapped : ∀ {expr receiver : Expr} {inner : Operand} (wrap : Operand → Operand),
      receiver.isBound = true → Compile.operand scope receiver before = (.ok inner, before) →
      (if receiver.isBound = true then do return wrap (← Compile.operand scope receiver)
        else fail expr .columnsInArguments : Compile Operand) before =
          (.ok (wrap inner), before) := by
    intro expr receiver inner wrap bound compiledInner
    rw [if_pos bound]
    exact bind_ok.mpr ⟨inner, before, compiledInner, pure_ok.mpr ⟨rfl, rfl⟩⟩
  induction compiled with
  | column resolved =>
    exact bind_ok.mpr ⟨_, before, lift_ok.mpr ⟨resolved, rfl⟩, pure_ok.mpr ⟨rfl, rfl⟩⟩
  | apply bound inner ih =>
    rw [Compile.operand]
    exact bind_ok.mpr ⟨_, before, pure_ok.mpr ⟨rfl, rfl⟩, wrapped _ bound ih⟩
  | @round receiver digits places operand bound counted inner ih =>
    have isPlaces : Compile.places (.call .round receiver [digits]) [digits] before =
        (.ok places, before) :=
      bind_ok.mpr ⟨_, before, lift_ok.mpr ⟨counted, rfl⟩, pure_ok.mpr ⟨rfl, rfl⟩⟩
    rw [Compile.operand]
    exact bind_ok.mpr ⟨_, before, map_ok.mpr ⟨places, isPlaces, rfl⟩, wrapped _ bound ih⟩

end Compile

/-- An operand is about a column and holds no value that may differ. -/
theorem OperandIn.alike {scope : Scope} {valued : Bool} {first second : Expr} {operand : Operand}
    (compiled : OperandIn scope first operand) (alike : Alike valued first second) :
    OperandIn scope second operand := by
  induction compiled generalizing valued second with
  | column resolved =>
    cases alike with
    | given value other => cases value.free
    | column reference => exact .column resolved
  | apply bound inner ih =>
    cases alike with
    | given value other =>
      have free := value.free
      simp [Expr.isBound, bound] at free
    | call receiver rest => exact .apply (receiver.isBound ▸ bound) (ih receiver)
  | round bound counted inner ih =>
    cases alike with
    | given value other =>
      have free := value.free
      simp [Expr.isBound, bound] at free
    | call receiver rest =>
      cases rest with
      | cons digits none =>
        cases none
        exact .round (receiver.isBound ▸ bound) (digits.evaluate_plain rfl counted rfl)
          (ih receiver)

namespace Compile

variable {scope : Scope} {valued : Bool} {first second : Expr}

theorem operand_follows (alike : Alike valued first second) :
    Follows Hides (operand scope first) (operand scope second) := by
  intro before other after result named done
  obtain ⟨compiled, rfl⟩ := operand_ok first done
  exact ⟨result, other, operand_of_operandIn (compiled.alike alike) other, rfl, named⟩

theorem evaluate_follows (alike : Alike valued first second) (free : first.isBound = false) :
    Follows (fun value other => other.isNull = value.isNull) (liftM first.evaluate)
      (liftM second.evaluate) :=
  .lift fun _ evaluated => alike.evaluate_value free evaluated

theorem argument_follows (alike : Alike valued first second) (hint : Option String)
    (change : Value → Value) :
    Follows Hides (argument scope hint change first) (argument scope hint change second) := by
  unfold argument
  rw [← alike.isBound]
  split
  · exact operand_follows alike
  · rename_i free
    refine (evaluate_follows alike (by simpa using free)).bind fun value other null => ?_
    rw [null]
    split
    · exact .fail
    · exact parameter_follows hint (change value) (change other)

/-- Conditions that differ in the values of their parameters alone. -/
def HidesIn (first second : Condition) : Prop :=
  first.masked = second.masked

theorem HidesIn.comparison {operator : Comparison} {left left' right right' : Operand}
    (first : Hides left left') (second : Hides right right') :
    HidesIn (.comparison operator left right) (.comparison operator left' right') := by
  rw [HidesIn, Condition.masked, Condition.masked, first, second]

theorem HidesIn.test {kind : Test} {negated : Bool} {receiver receiver' : Operand}
    {arguments arguments' : List Operand} (first : Hides receiver receiver')
    (each : List.Forall₂ Hides arguments arguments') :
    HidesIn (.test kind receiver arguments negated) (.test kind receiver' arguments' negated) := by
  have items : arguments.map Operand.masked = arguments'.map Operand.masked := by
    induction each with
    | nil => rfl
    | cons head _ ih => rw [List.map_cons, List.map_cons, head, ih]
  rw [HidesIn, Condition.masked, Condition.masked, first, items]

theorem compared_follows {valuedOther : Bool} {other other' : Expr} (comparison : Comparison)
    (alike : Alike valued first second) (alikeOther : Alike valuedOther other other') :
    Follows HidesIn (compared scope comparison first other)
      (compared scope comparison second other') := by
  refine (operand_follows alike).bind fun left left' hidesLeft => ?_
  rw [← alikeOther.isBound]
  split
  · exact (operand_follows alikeOther).bind fun right right' hidesRight =>
      .pure (.comparison hidesLeft hidesRight)
  · rename_i free
    refine (evaluate_follows alikeOther (by simpa using free)).bind fun value value' null => ?_
    rw [null]
    split
    · split
      · exact .fail
      · exact .pure (.comparison hidesLeft rfl)
    · have named : left.columnName? = left'.columnName? := by
        rw [← left.columnName?_masked, hidesLeft, left'.columnName?_masked]
      rw [named]
      exact (parameter_follows _ value value').bind fun right right' hidesRight =>
        .pure (.comparison hidesLeft hidesRight)

theorem comparison_follows {valuedOther : Bool} {left left' right right' : Expr}
    (written : Comparison) (negated : Bool) (alikeLeft : Alike valued left left')
    (alikeRight : Alike valuedOther right right') :
    Follows HidesIn (comparison scope written left right negated)
      (comparison scope written left' right' negated) := by
  unfold comparison
  rw [← alikeLeft.isBound]
  by_cases bound : left.isBound = true
  · rw [if_pos bound, if_pos bound]
    exact compared_follows _ alikeLeft alikeRight
  · rw [if_neg bound, if_neg bound]
    exact compared_follows _ alikeRight alikeLeft

theorem test_follows {kind : Test} {receiver receiver' : Expr} {arguments arguments' : List Expr}
    {expr other : Expr} (columns : expr.columns = other.columns) (negated : Bool)
    (alike : Alike valued receiver receiver') (each : AllAlike valued arguments arguments') :
    Follows HidesIn (test scope expr kind receiver arguments negated)
      (test scope other kind receiver' arguments' negated) := by
  have hint : expr.firstColumn? = other.firstColumn? := congrArg List.head? columns
  unfold test
  dsimp only
  rw [hint, ← each.forall₂.length_eq]
  split
  · exact .fail
  · rename_i arity
    refine (argument_follows alike _ id).bind fun operand operand' hides => ?_
    have listed : ∀ {items items' : List Expr} (change : Value → Value),
        AllAlike valued items items' →
        Follows HidesIn
          (do return Condition.test kind operand (← items.mapM (argument scope
            (other.firstColumn?.map ColumnRef.name) change)) negated)
          (do return Condition.test kind operand' (← items'.mapM (argument scope
            (other.firstColumn?.map ColumnRef.name) change)) negated) := by
      intro items items' change alikeItems
      refine (Follows.mapM alikeItems.forall₂ fun item item' alikeItem => ?_).bind
        fun _ _ hidesEach => .pure (.test hides hidesEach)
      exact argument_follows alikeItem (other.firstColumn?.map ColumnRef.name) change
    cases kind with
    | isIn =>
      cases each with
      | nil => exact .fail
      | @cons _ item item' rest rest' head tail =>
        cases tail with
        | cons second tail => simp [Test.arity] at arity
        | nil =>
          cases item with
          | list items =>
            cases head with
            | given value other =>
              obtain ⟨_, evaluated, _⟩ := value.present
              cases evaluated
            | list eachItem =>
              cases eachItem with
              | nil => exact .pure rfl
              | cons first others => exact listed id (.cons first others)
          | _ => exact .fail
    | _ => exact listed _ each

theorem condition_follows (alike : Alike false first second) (negated : Bool) :
    Follows HidesIn (condition scope first negated) (condition scope second negated) := by
  by_cases bound : first.isBound = true
  · unfold condition
    rw [← alike.isBound, bound]
    simp only [Bool.not_true, Bool.false_eq_true, if_false]
    cases alike with
    | column reference =>
      dsimp only
      split
      · exact .fail
      · have own : Alike false (.column reference) (.column reference) := .column reference
        refine (operand_follows own).bind fun operand operand' hides => ?_
        exact (parameter_follows _ _ _).bind fun _ _ hidesOther =>
          .pure (.comparison hides hidesOther)
    | compare left right => exact comparison_follows _ negated left right
    | @call _ method _ _ _ _ receiver rest =>
      have columns := (@Alike.call false method _ _ _ _ receiver rest).columns
      cases method with
      | test kind => exact test_follows columns negated receiver rest
      | _ => exact .fail
    | _ => exact .fail
  · have free : first.isBound = false := by simpa using bound
    obtain rfl := alike.eq_of_free rfl free
    unfold condition
    rw [free]
    have same : Follows Eq (liftM first.evaluateBool) (liftM first.evaluateBool) :=
      .lift fun truth evaluated => ⟨truth, evaluated, rfl⟩
    exact same.bind fun truth other equal => .pure (equal ▸ rfl)

theorem tree_follows (alike : Alike false first second) (negated : Bool) :
    Follows (fun tree other => tree.masked = other.masked) (tree scope first negated)
      (tree scope second negated) := by
  fun_induction Expr.clauses first negated generalizing second with
  | case1 inner negated ih =>
    cases alike with
    | not within => exact ih within
  | case2 connective left right negated ihLeft ihRight =>
    cases alike with
    | connect first last =>
      refine (ihLeft first).bind fun left left' sameLeft => ?_
      refine (ihRight last).bind fun right right' sameRight => .pure ?_
      rw [Predicate.Tree.masked, Predicate.Tree.masked, sameLeft, sameRight]
  | case3 expr negated noNegation noConnective =>
    have noNegationOther : ∀ inner, second = .not inner → False := by
      rintro inner rfl
      cases alike with
      | not within => exact noNegation _ rfl
    have noConnectiveOther : ∀ connective left right,
        second = .connect connective left right → False := by
      rintro connective left right rfl
      cases alike with
      | connect first last => exact noConnective _ _ _ rfl
    rw [tree.eq_3 scope expr negated noNegation noConnective,
      tree.eq_3 scope second negated noNegationOther noConnectiveOther]
    exact (condition_follows alike negated).bind fun condition other hides =>
      .pure (congrArg Predicate.Tree.leaf hides)

end Compile

theorem Expr.compile_follows {scope : Scope} {first second : Expr}
    (alike : Alike false first second) :
    Compile.Follows (fun predicate other => predicate.masked = other.masked)
      (first.compile scope) (second.compile scope) := by
  refine (Compile.tree_follows alike false).bind fun tree other same => .pure ?_
  simp only [Predicate.masked, Predicate.Tree.nodes, ← Predicate.Tree.emit_masked, same]

end TypedSql
