import TypedSql.Proofs.Compilation.Alignment
import TypedSql.Proofs.Compilation.Columns

namespace TypedSql

/-- The second operand is the first one with its column under an alias. Parameters hold the same
value and need not have the same name. -/
inductive Operand.Qualifies (qualifier : Alias) : Operand → Operand → Prop where
  | column (name : String) (type : FieldType) :
      Qualifies qualifier (.column none name type) (.column (some qualifier) name type)
  | parameter (name other : String) (value : Value) :
      Qualifies qualifier (.parameter name value) (.parameter other value)
  | null : Qualifies qualifier .null .null
  | apply (function : Function) {argument qualified : Operand}
      (within : argument.Qualifies qualifier qualified) :
      Qualifies qualifier (.apply function argument) (.apply function qualified)
  | round (places : Int32) {argument qualified : Operand}
      (within : argument.Qualifies qualifier qualified) :
      Qualifies qualifier (.round places argument) (.round places qualified)

inductive Condition.Qualifies (qualifier : Alias) : Condition → Condition → Prop where
  | comparison (comparison : Comparison) {left left' right right' : Operand}
      (first : left.Qualifies qualifier left') (second : right.Qualifies qualifier right') :
      Qualifies qualifier (.comparison comparison left right) (.comparison comparison left' right')
  | test (kind : Test) (negated : Bool) {receiver receiver' : Operand}
      {arguments arguments' : List Operand} (first : receiver.Qualifies qualifier receiver')
      (each : List.Forall₂ (Operand.Qualifies qualifier) arguments arguments') :
      Qualifies qualifier (.test kind receiver arguments negated)
        (.test kind receiver' arguments' negated)
  | constant (truth : Bool) : Qualifies qualifier (.constant truth) (.constant truth)

namespace Predicate

inductive Content.Qualifies (qualifier : Alias) : Content → Content → Prop where
  | condition {condition qualified : Condition} (within : condition.Qualifies qualifier qualified) :
      Qualifies qualifier (.condition condition) (.condition qualified)
  | connective (connective : Connective) :
      Qualifies qualifier (.connective connective) (.connective connective)

/-- The nodes stand in the same place and in the same parentheses. -/
structure Node.Qualifies (qualifier : Alias) (node qualified : Node) : Prop where
  content : node.content.Qualifies qualifier qualified.content
  parent : node.parent = qualified.parent
  opening : node.opening = qualified.opening
  closing : node.closing = qualified.closing
  position : node.position = qualified.position

variable {qualifier : Alias}

theorem Tree.Related.size {α β : Type} {R : α → β → Prop} {tree : Tree α} {other : Tree β}
    (related : Tree.Related R tree other) : tree.size = other.size := by
  induction related with
  | leaf => rfl
  | branch _ _ first second => rw [Tree.size, Tree.size, first, second]

theorem Tree.Related.emit {tree other : Tree Condition}
    (related : Tree.Related (Condition.Qualifies qualifier) tree other) (outer : Option Connective)
    (parent : Option Nat) (opening closing : UInt16) (position : Nat) :
    List.Forall₂ (Node.Qualifies qualifier) (tree.emit outer parent opening closing position)
      (other.emit outer parent opening closing position) := by
  induction related generalizing outer parent opening closing position with
  | leaf related => exact .cons ⟨.condition related, rfl, rfl, rfl, rfl⟩ .nil
  | @branch connective left right left' right' first second ihFirst ihSecond =>
    simp only [Tree.emit, first.size]
    exact List.rel_append (ihFirst _ _ _ _ _)
      (.cons ⟨.connective connective, rfl, rfl, rfl, rfl⟩ (ihSecond _ _ _ _ _))

end Predicate

/-- All columns of the expression belong to the table. -/
def Expr.IsOver (table : Table) (expr : Expr) : Prop :=
  ∀ reference ∈ expr.columns, reference.table = table

namespace Expr

variable {table : Table} {left right receiver : Expr} {items arguments : List Expr}

theorem isOver_column {reference : ColumnRef} :
    (column reference).IsOver table ↔ reference.table = table :=
  List.forall_mem_singleton

theorem isOver_list : (list items).IsOver table ↔ ∀ item ∈ items, item.IsOver table := by
  simp only [IsOver, columns, columnsOf_eq_flatMap, List.mem_flatMap]
  grind

theorem isOver_compare {comparison : Comparison} :
    (compare comparison left right).IsOver table ↔ left.IsOver table ∧ right.IsOver table :=
  List.forall_mem_append

theorem isOver_connect {connective : Connective} :
    (connect connective left right).IsOver table ↔ left.IsOver table ∧ right.IsOver table :=
  List.forall_mem_append

theorem isOver_call {method : Method} :
    (call method receiver arguments).IsOver table ↔
      receiver.IsOver table ∧ ∀ argument ∈ arguments, argument.IsOver table := by
  rw [← isOver_list]
  exact List.forall_mem_append

end Expr

namespace Compile

variable {table : Table} {aliases : Aliases} {qualifier : Alias}
  (served : aliases.get? table = some qualifier)

theorem places_aligned (expr : Expr) (arguments : List Expr) :
    Aligned Eq (places expr arguments) (places expr arguments) := by
  cases arguments with
  | nil => exact .fail _ _
  | cons first rest =>
    refine (Aligned.same first.evaluate).bind ?_
    rintro value _ rfl
    split
    · exact .pure rfl
    · exact .fail _ _

include served

theorem column_aligned {reference : ColumnRef} (own : reference.table = table) :
    Aligned (Operand.Qualifies qualifier) (column (.single table) reference)
      (column (.aliased aliases) reference) := by
  subst own
  have plain : Scope.resolve (.single reference.table) reference.table = .ok none := if_pos rfl
  have aliased : Scope.resolve (.aliased aliases) reference.table = .ok (some qualifier) := by
    simp [Scope.resolve, Aliases.require, served, Except.map]
  unfold column
  rw [plain, aliased]
  exact .pure (.column reference.name reference.type)

theorem operand_aligned : (expr : Expr) → expr.IsOver table →
    Aligned (Operand.Qualifies qualifier) (operand (.single table) expr)
      (operand (.aliased aliases) expr)
  | .column reference, own => column_aligned served (Expr.isOver_column.mp own)
  | .call method receiver arguments, own => by
    have ownReceiver := (Expr.isOver_call.mp own).1
    have wrapped : ∀ wrap wrapOther : Operand → Operand,
        (∀ a b, Operand.Qualifies qualifier a b →
          Operand.Qualifies qualifier (wrap a) (wrapOther b)) →
        Aligned (Operand.Qualifies qualifier)
          (if receiver.isBound = true then do return wrap (← operand (.single table) receiver)
            else fail (.call method receiver arguments) .columnsInArguments)
          (if receiver.isBound = true then do
              return wrapOther (← operand (.aliased aliases) receiver)
            else fail (.call method receiver arguments) .columnsInArguments) := by
      intro wrap wrapOther kept
      split
      · exact (operand_aligned receiver ownReceiver).bind fun a b related =>
          .pure (kept a b related)
      · exact .fail _ _
    simp only [operand]
    cases method with
    | apply function => exact (Aligned.pure fun _ _ => .apply function).bind wrapped
    | round =>
      refine ((places_aligned _ arguments).map ?_).bind wrapped
      rintro places _ rfl
      exact fun _ _ => .round places
    | average | test kind => exact (Aligned.fail _ _).bind wrapped
  | .arithmetic .., _ | .literal _, _ | .list _, _ | .compare .., _ | .connect .., _ | .not _, _ =>
    .fail _ _

omit served in
theorem parameter_aligned (column columnOther : Option String) (value : Value) :
    Aligned (Operand.Qualifies qualifier) (parameter column value) (parameter columnOther value) :=
  fun before other => ⟨.ok (.parameter _ _ value), .allocate before other _ _ value⟩

theorem argument_aligned (hint : Option String) (change : Value → Value) {expr : Expr}
    (own : expr.IsOver table) :
    Aligned (Operand.Qualifies qualifier) (argument (.single table) hint change expr)
      (argument (.aliased aliases) hint change expr) := by
  unfold argument
  split
  · exact operand_aligned served expr own
  · refine (Aligned.same expr.evaluate).bind ?_
    rintro value _ rfl
    split
    · exact .fail _ _
    · exact parameter_aligned hint hint (change value)

theorem arguments_aligned (hint : Option String) (change : Value → Value) {items : List Expr}
    (own : ∀ item ∈ items, item.IsOver table) :
    Aligned (List.Forall₂ (Operand.Qualifies qualifier))
      (items.mapM (argument (.single table) hint change))
      (items.mapM (argument (.aliased aliases) hint change)) := by
  have each : List.Forall₂ (fun item other => item = other ∧ item.IsOver table) items items :=
    List.forall₂_same.mpr fun item member => ⟨rfl, own item member⟩
  refine Aligned.mapM each ?_
  rintro item _ ⟨rfl, ownItem⟩
  exact argument_aligned served hint change ownItem

theorem compared_aligned (comparison : Comparison) {bound other : Expr}
    (own : bound.IsOver table) (ownOther : other.IsOver table) :
    Aligned (Condition.Qualifies qualifier) (compared (.single table) comparison bound other)
      (compared (.aliased aliases) comparison bound other) := by
  refine (operand_aligned served bound own).bind fun left left' first => ?_
  split
  · exact (operand_aligned served other ownOther).bind fun right right' second =>
      .pure (.comparison comparison first second)
  · refine (Aligned.same other.evaluate).bind ?_
    rintro value _ rfl
    split
    · split
      · exact .fail _ _
      · exact .pure (.comparison comparison first .null)
    · exact (parameter_aligned _ _ value).bind fun right right' second =>
        .pure (.comparison comparison first second)

theorem comparison_aligned (written : Comparison) (negated : Bool) {left right : Expr}
    (own : (Expr.compare written left right).IsOver table) :
    Aligned (Condition.Qualifies qualifier)
      (comparison (.single table) written left right negated)
      (comparison (.aliased aliases) written left right negated) := by
  obtain ⟨ownLeft, ownRight⟩ := Expr.isOver_compare.mp own
  unfold comparison
  by_cases bound : left.isBound = true
  · rw [if_pos bound]
    exact compared_aligned served _ ownLeft ownRight
  · rw [if_neg bound]
    exact compared_aligned served _ ownRight ownLeft

theorem test_aligned (kind : Test) (negated : Bool) {receiver : Expr} {arguments : List Expr}
    (own : (Expr.call (.test kind) receiver arguments).IsOver table) :
    Aligned (Condition.Qualifies qualifier)
      (test (.single table) (.call (.test kind) receiver arguments) kind receiver arguments negated)
      (test (.aliased aliases) (.call (.test kind) receiver arguments) kind receiver arguments
        negated) := by
  obtain ⟨ownReceiver, ownArguments⟩ := Expr.isOver_call.mp own
  unfold test
  dsimp only
  split
  · exact .fail _ _
  · refine (argument_aligned served _ id ownReceiver).bind fun operand operand' first => ?_
    split
    · exact .pure (.constant negated)
    · have ownItems := Expr.isOver_list.mp (ownArguments _ (List.mem_singleton_self _))
      exact (arguments_aligned served _ id ownItems).bind fun _ _ each =>
        .pure (.test _ negated first each)
    · exact .fail _ _
    · exact (arguments_aligned served _ _ ownArguments).bind fun _ _ each =>
        .pure (.test _ negated first each)

theorem condition_aligned (negated : Bool) {expr : Expr} (own : expr.IsOver table) :
    Aligned (Condition.Qualifies qualifier) (condition (.single table) expr negated)
      (condition (.aliased aliases) expr negated) := by
  unfold condition
  split
  · refine (Aligned.same expr.evaluateBool).bind ?_
    rintro truth _ rfl
    exact .pure (.constant _)
  · split
    · split
      · exact .fail _ _
      · have ownColumn := Expr.isOver_column.mp own
        refine (column_aligned served ownColumn).bind fun left left' first => ?_
        exact (parameter_aligned _ _ _).bind fun right right' second =>
          .pure (.comparison .equal first second)
    · exact comparison_aligned served _ negated own
    · exact test_aligned served _ negated own
    all_goals exact .fail _ _

/-- The scope decides how columns are named and nothing else. -/
theorem tree_aligned (negated : Bool) {expr : Expr} (own : expr.IsOver table) :
    Aligned (Predicate.Tree.Related (Condition.Qualifies qualifier))
      (tree (.single table) expr negated) (tree (.aliased aliases) expr negated) := by
  fun_induction Expr.clauses expr negated with
  | case1 inner negated ih => exact ih own
  | case2 connective left right negated ihLeft ihRight =>
    obtain ⟨ownLeft, ownRight⟩ := Expr.isOver_connect.mp own
    refine (ihLeft ownLeft).bind fun left left' first => ?_
    exact (ihRight ownRight).bind fun right right' second => .pure (.branch first second)
  | case3 expr negated noNegation noConnective =>
    rw [tree.eq_3 _ expr negated noNegation noConnective,
      tree.eq_3 _ expr negated noNegation noConnective]
    exact (condition_aligned served negated own).bind fun condition qualified within =>
      .pure (.leaf within)

end Compile

/-- In the scope of its one table and among aliased tables, whatever was recorded before, an
expression over one table compiles to the same nodes but for the alias of its columns and the names
of its parameters, or fails with the same error. The same values are recorded. -/
theorem compile_qualifies {expr : Expr} {table : Table} (own : expr.IsOver table)
    {aliases : Aliases} {qualifier : Alias} (served : aliases.get? table = some qualifier)
    (before other : Parameters) :
    Except.Agrees
        (fun predicate qualified =>
          List.Forall₂ (Predicate.Node.Qualifies qualifier) predicate.nodes qualified.nodes)
        (expr.compile (.single table) before).1 (expr.compile (.aliased aliases) other).1 ∧
      Parameters.RecordAlike before (expr.compile (.single table) before).2 other
        (expr.compile (.aliased aliases) other).2 := by
  have aligned : Compile.Aligned
      (fun predicate qualified =>
        List.Forall₂ (Predicate.Node.Qualifies qualifier) predicate.nodes qualified.nodes)
      (expr.compile (.single table)) (expr.compile (.aliased aliases)) :=
    (Compile.tree_aligned served false own).bind fun tree qualified related =>
      .pure (related.emit none none 0 0 0)
  exact aligned before other

def Aliases.besideOrders : Aliases :=
  ⟨[⟨"shop.order", "Order", []⟩, ⟨"shop.customer", "Customer", []⟩], by simp, by decide⟩

theorem compile_qualifies_customers :
    let customers : Table := ⟨"shop.customer", "Customer", []⟩
    let expr := Expr.neitherOlderNorNameless customers
    let recorded := (Parameters.empty.allocate "Age" (.int32 9)).2
    expr.IsOver customers ∧ Aliases.besideOrders.get? customers = some ⟨1⟩ ∧
      ∃ predicate qualified, (expr.compile (.single customers) .empty).1 = .ok predicate ∧
        (expr.compile (.aliased .besideOrders) recorded).1 = .ok qualified ∧
        List.Forall₂ (Predicate.Node.Qualifies ⟨1⟩) predicate.nodes qualified.nodes := by
  intro customers expr recorded
  have own : expr.IsOver customers := by
    simp [expr, Expr.IsOver, Expr.neitherOlderNorNameless, Expr.columns]
  have served : Aliases.besideOrders.get? customers = some ⟨1⟩ := by decide
  obtain ⟨predicate, single⟩ : ∃ predicate,
      (expr.compile (.single customers) .empty).1 = .ok predicate := ⟨_, rfl⟩
  obtain ⟨qualified, aliased⟩ : ∃ qualified,
      (expr.compile (.aliased .besideOrders) recorded).1 = .ok qualified := ⟨_, rfl⟩
  obtain ⟨agrees, _⟩ := compile_qualifies own served .empty recorded
  rw [single, aliased] at agrees
  obtain _ | ⟨related⟩ := agrees
  exact ⟨own, served, predicate, qualified, single, aliased, related⟩

end TypedSql
