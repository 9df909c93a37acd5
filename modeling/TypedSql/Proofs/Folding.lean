import Mathlib.Data.Option.NAry
import TypedSql.Proofs.Evaluation.Passing
import TypedSql.Proofs.Reading

namespace TypedSql

open Predicate (Tree)

namespace Predicate.Tree

variable {α β ε : Type} {step : α → Except ε β} {tree : Tree α}

/-- Runs a step at each leaf, from left to right. -/
def mapM (step : α → Except ε β) : Tree α → Except ε (Tree β)
  | leaf a => do return .leaf (← step a)
  | branch connective left right => do
    return .branch connective (← left.mapM step) (← right.mapM step)

theorem mapM_ok {other : Tree β} :
    tree.mapM step = .ok other ↔ Related (fun a b => step a = .ok b) tree other := by
  induction tree generalizing other with
  | leaf a =>
    rw [mapM, Except.bind_ok]
    constructor
    · rintro ⟨b, done, ⟨⟩⟩
      exact .leaf done
    · rintro (_ | _)
      rename_i b done
      exact ⟨b, done, rfl⟩
  | branch connective left right ihLeft ihRight =>
    simp only [mapM, Except.bind_ok, ihLeft, ihRight]
    constructor
    · rintro ⟨_, first, _, second, ⟨⟩⟩
      exact .branch first second
    · rintro (_ | ⟨first, second⟩)
      exact ⟨_, first, _, second, rfl⟩

theorem exists_mapM_ok :
    (∃ other, tree.mapM step = .ok other) ↔ ∀ a ∈ tree.leaves, ∃ b, step a = .ok b := by
  simp only [mapM_ok]
  constructor
  · rintro ⟨other, related⟩ a member
    obtain ⟨b, _, done⟩ := related.flip.exists_left member
    exact ⟨b, done⟩
  · exact Related.exists_of_leaves

end Predicate.Tree

namespace Connective

def onBool : Connective → Bool → Bool → Bool
  | and => Bool.and
  | or => Bool.or

theorem onBool_assoc (connective : Connective) (first second third : Bool) :
    connective.onBool (connective.onBool first second) third =
      connective.onBool first (connective.onBool second third) := by
  cases connective with
  | and => exact Bool.and_assoc first second third
  | or => exact Bool.or_assoc first second third

theorem onBool_under (connective : Connective) (negated left right : Bool) :
    (if negated then connective.dual else connective).onBool (left != negated)
      (right != negated) = (connective.onBool left right != negated) := by
  cases connective <;> cases negated <;> cases left <;> cases right <;> rfl

theorem shortCircuit_ok {ε : Type} (connective : Connective) (left right : Bool) :
    connective.shortCircuit (.ok left : Except ε Bool) (.ok right) =
      .ok (connective.onBool left right) := by
  cases connective <;> cases left <;> cases right <;> rfl

def onBool? (connective : Connective) : Option Bool → Option Bool → Option Bool :=
  Option.map₂ connective.onBool

theorem onBool?_assoc (connective : Connective) (first second third : Option Bool) :
    connective.onBool? (connective.onBool? first second) third =
      connective.onBool? first (connective.onBool? second third) :=
  Option.map₂_assoc connective.onBool_assoc

end Connective

def Condition.constant? : Condition → Option Bool
  | constant truth => some truth
  | _ => none

namespace Predicate

/-- Whether the node is a constant or a connective. -/
def Node.isFolded (node : Node) : Bool :=
  match node.content with
  | .condition condition => condition.constant?.isSome
  | .connective _ => true

/-- What constants say together as they are read from left to right, with the parentheses around
them and with `AND` before `OR`. -/
def constant? (predicate : Predicate) : Option Bool := do
  let tree ← predicate.read?
  tree.fold Connective.onBool? Condition.constant?

theorem constant?_nodes {tree : Tree Condition} (fits : tree.Fits) :
    constant? ⟨tree.nodes⟩ = tree.fold Connective.onBool? Condition.constant? := by
  unfold constant?
  rw [read?_nodes fits]
  exact Tree.fold_leftNested _ _ Connective.onBool?_assoc tree

theorem isFolded_nodes {tree : Tree Condition}
    (constants : ∀ condition ∈ tree.leaves, condition.constant?.isSome) {node : Node}
    (member : node ∈ tree.nodes) : node.isFolded = true := by
  unfold Node.isFolded
  cases held : node.content with
  | connective connective => rfl
  | condition condition =>
    refine constants condition ?_
    rw [← conditions_nodes tree]
    exact List.mem_filterMap.mpr ⟨node, member, by simp [Node.condition?, held]⟩

end Predicate

/-- The constant that a clause without columns becomes. -/
def Clause.constant (clause : Clause) : Except Error Condition := do
  return .constant ((← clause.expr.evaluateBool) != clause.negated)

theorem Clause.constant_ok {clause : Clause} {condition : Condition} :
    clause.constant = .ok condition ↔
      ∃ truth, clause.expr.evaluateBool = .ok truth ∧
        .constant (truth != clause.negated) = condition := by
  simp only [constant, Except.bind_ok, pure, Except.pure, Except.ok.injEq]

theorem Clause.exists_constant_ok {clause : Clause} :
    (∃ condition, clause.constant = .ok condition) ↔ clause.expr.IsDecided := by
  simp only [constant_ok]
  exact ⟨fun ⟨_, truth, decided, _⟩ => ⟨truth, decided⟩,
    fun ⟨truth, decided⟩ => ⟨_, truth, decided, rfl⟩⟩

/-- Together the constants of an expression say what it evaluates to. -/
theorem related_constant {expr : Expr} {negated : Bool} {tree : Predicate.Tree Condition}
    (related : Tree.Related (fun clause condition => clause.constant = .ok condition)
      (expr.clauses negated) tree) :
    ∃ truth, expr.evaluateBool = .ok truth ∧
      tree.fold Connective.onBool? Condition.constant? = some (truth != negated) := by
  fun_induction Expr.clauses expr negated generalizing tree with
  | case1 inner negated ih =>
    obtain ⟨truth, decided, folded⟩ := ih related
    refine ⟨!truth, Expr.evaluateBool_not_ok.mpr (by rw [decided, Bool.not_not]), ?_⟩
    rw [folded]
    cases truth <;> cases negated <;> rfl
  | case2 connective left right negated ihLeft ihRight =>
    cases related with
    | branch first second =>
      obtain ⟨truth, decided, folded⟩ := ihLeft first
      obtain ⟨other, decidedRight, foldedRight⟩ := ihRight second
      refine ⟨connective.onBool truth other, Expr.evaluateBool_connect_ok.mpr ?_, ?_⟩
      · rw [decided, decidedRight, Connective.shortCircuit_ok]
      · rw [Tree.fold, folded, foldedRight, ← Connective.onBool_under]
        rfl
  | case3 expr negated noNegation noConnective =>
    cases related with
    | leaf folded =>
      obtain ⟨truth, decided, rfl⟩ := Clause.constant_ok.mp folded
      exact ⟨truth, decided, rfl⟩

namespace Compile

theorem lift_bind {α β : Type} (step : Except Error α) (next : α → Except Error β) :
    (liftM (step >>= next) : Compile β) = liftM step >>= fun a => liftM (next a) := by
  cases step <;> rfl

variable {expr : Expr} (free : expr.isBound = false) (scope : Scope) (negated : Bool)

include free

theorem condition_of_free :
    condition scope expr negated = liftM (Clause.constant ⟨expr, negated⟩) := by
  unfold condition
  rw [free, Clause.constant, lift_bind]
  rfl

/-- Without columns, each clause becomes a constant and nothing is recorded. -/
theorem tree_of_free :
    Compile.tree scope expr negated = liftM ((expr.clauses negated).mapM Clause.constant) := by
  fun_induction Expr.clauses expr negated with
  | case1 inner negated ih => exact ih free
  | case2 connective left right negated ihLeft ihRight =>
    simp only [Expr.isBound, Bool.or_eq_false_iff] at free
    rw [tree, ihLeft free.1, ihRight free.2, Tree.mapM, lift_bind]
    simp only [lift_bind]
    rfl
  | case3 expr negated noNegation noConnective =>
    rw [tree.eq_3 scope expr negated noNegation noConnective, condition_of_free free, Tree.mapM,
      lift_bind]
    rfl

end Compile

theorem Expr.compile_of_free {expr : Expr} (free : expr.isBound = false) (scope : Scope)
    (before : Parameters) :
    expr.compile scope before =
      (((expr.clauses false).mapM Clause.constant).map fun tree => ⟨tree.nodes⟩, before) := by
  rw [compile, Compile.tree_of_free free]
  cases (expr.clauses false).mapM Clause.constant <;> rfl

/-- An expression without columns compiles exactly if it is true or false and each part that its
evaluation passes over is true or false as well. It becomes constants under connectives, which say
together what it evaluates to as long as the counters hold their parentheses, and nothing is
recorded. -/
theorem folding_agrees_iff {expr : Expr} (free : expr.columns = []) (scope : Scope)
    (before : Parameters) :
    (expr.compile scope before).2 = before ∧
    ((∃ predicate, (expr.compile scope before).1 = .ok predicate) ↔
      expr.IsDecided ∧ ∀ part ∈ expr.passed, part.IsDecided) ∧
    ∀ predicate, (expr.compile scope before).1 = .ok predicate →
      (∀ node ∈ predicate.nodes, node.isFolded) ∧
      ∃ truth, expr.evaluateBool = .ok truth ∧
        ((expr.clauses false).Fits → predicate.constant? = some truth) := by
  have unbound : expr.isBound = false :=
    Bool.eq_false_iff.mpr fun bound => (Expr.isBound_iff expr).mp bound free
  rw [Expr.compile_of_free unbound]
  refine ⟨rfl, ?_, fun predicate compiled => ?_⟩
  · rw [← Expr.isDecided_parts, ← Expr.leaves_clauses expr false, List.forall_mem_map]
    simp only [← Clause.exists_constant_ok, ← Tree.exists_mapM_ok, Except.map_ok]
    exact ⟨fun ⟨_, tree, folded, _⟩ => ⟨tree, folded⟩, fun ⟨tree, folded⟩ => ⟨_, tree, folded, rfl⟩⟩
  · obtain ⟨tree, folded, rfl⟩ := Except.map_ok.mp compiled
    have related := Tree.mapM_ok.mp folded
    obtain ⟨truth, decided, constant⟩ := related_constant related
    refine ⟨fun node member => Predicate.isFolded_nodes ?_ member, truth, decided, fun fits => ?_⟩
    · intro condition member
      obtain ⟨clause, _, written⟩ := related.exists_left member
      obtain ⟨_, _, rfl⟩ := Clause.constant_ok.mp written
      rfl
    · rw [Predicate.constant?_nodes (related.fits fits), constant, Bool.bne_false]

/-- `false && (1 / divisor == 1)` -/
def Expr.guarded (divisor : Int32) : Expr :=
  .connect .and (.literal (.bool false))
    (.compare .equal (.arithmetic .div (.literal (.int32 1)) (.literal (.int32 divisor)))
      (.literal (.int32 1)))

theorem folding_agrees_iff_guarded :
    ∃ predicate,
      (Expr.guarded 2).compile (.single ⟨"", "", []⟩) .empty = (.ok predicate, .empty) ∧
      predicate.nodes.length = 3 ∧ predicate.constant? = some false := by
  have compiled : (Expr.guarded 2).compile (.single ⟨"", "", []⟩) .empty = (.ok _, .empty) := rfl
  have agrees := @folding_agrees_iff (.guarded 2) rfl (.single ⟨"", "", []⟩) .empty
  obtain ⟨_, truth, decided, constant⟩ := agrees.2.2 _ (congrArg Prod.fst compiled)
  have same : truth = false := Except.ok.inj (decided.symm.trans rfl)
  exact ⟨_, compiled, rfl, same ▸ constant (by decide)⟩

/-- Division by zero behind a settled connective is not evaluated, but compiled. -/
theorem passed_part_fails :
    (Expr.guarded 0).columns = [] ∧ (Expr.guarded 0).evaluateBool = .ok false ∧
      (Expr.guarded 0).compile (.single ⟨"", "", []⟩) .empty =
        (.error (.unsupported
          (.arithmetic .div (.literal (.int32 1)) (.literal (.int32 0))) .arithmeticOverflow),
          .empty) :=
  ⟨rfl, rfl, rfl⟩

end TypedSql
