import TypedSql.Proofs.Nesting
import TypedSql.Proofs.Nesting.Tallies

namespace TypedSql

namespace Predicate.Tree

variable {tree : Tree Condition} {index : Nat} {node : Node}

theorem tally_nodes (tree : Tree Condition) (index : Nat) :
    tree.tally none 0 0 0 index = (groupsFrom tree.nodes index, groupsTo tree.nodes index) := by
  rw [tally, tree.areGroups_nodes.groupsFrom_eq, tree.areGroups_nodes.groupsTo_eq]
  simp only [ite_self, Nat.zero_add]

theorem map_counters (tree : Tree Condition) :
    tree.nodes.map Node.counters = (tree.tallies none 0 0).map wrapped :=
  tree.counters_emit none none 0 rfl rfl

theorem counters_nodes (found : tree.nodes[index]? = some node) :
    node.counters = wrapped (groupsFrom tree.nodes index, groupsTo tree.nodes index) := by
  have counted := tree.map_counters
  have inside := (within_nodes found).2
  rw [tallies_eq tree none 0 0 0] at counted
  have here := congrArg (·[index]?) counted
  simp only [List.getElem?_map, found, Option.map_some] at here
  rw [List.getElem?_range' (by omega), Nat.zero_add, Nat.one_mul] at here
  simp only [Option.map_some, Option.some.injEq] at here
  rw [here, tally_nodes]

theorem mem_tallies {tally : Nat × Nat} :
    tally ∈ tree.tallies none 0 0 ↔ ∃ index node, tree.nodes[index]? = some node ∧
      tally = (groupsFrom tree.nodes index, groupsTo tree.nodes index) := by
  simp only [tallies_eq tree none 0 0 0, List.mem_map, tally_nodes, List.mem_range'_1]
  constructor
  · rintro ⟨index, ⟨_, inside⟩, rfl⟩
    rw [Nat.zero_add, ← length_nodes] at inside
    exact ⟨index, _, List.getElem?_eq_getElem inside, rfl⟩
  · rintro ⟨index, node, found, rfl⟩
    exact ⟨index, within_nodes found, rfl⟩

theorem groups_le (found : tree.nodes[index]? = some node) :
    groupsFrom tree.nodes index ≤ tree.alternations none ∧
      groupsTo tree.nodes index ≤ tree.alternations none := by
  have bounded := tallies_le (mem_tallies.mpr ⟨index, node, found, rfl⟩)
  simpa only [Nat.zero_add] using bounded

/-- The counters hold the numbers as long as these have 16 bits. -/
theorem countersHold_iff : CountersHold tree.nodes ↔ tree.Fits := by
  rw [fits_iff_tallies]
  constructor
  · intro held tally member
    obtain ⟨index, node, found, rfl⟩ := mem_tallies.mp member
    rw [← held index node found]
    exact ⟨node.opening.toNat_lt, node.closing.toNat_lt⟩
  · intro fits index node found
    obtain ⟨opening, closing⟩ := fits _ (mem_tallies.mpr ⟨index, node, found, rfl⟩)
    rw [counters_nodes found]
    exact Prod.ext (Nat.mod_eq_of_lt opening) (Nat.mod_eq_of_lt closing)

end Predicate.Tree

open Predicate (CountersHold Balanced groupsFrom groupsTo openings closings Tree)

/-- The counters of a compiled predicate are the numbers of groups that begin and that end at each
node, modulo 65536. No more groups begin or end at a node than the connective changes on the way to
some condition, so the counters hold the numbers and the parentheses are balanced as long as it
changes less often than that. -/
theorem counters_hold_iff {expr : Expr} {scope : Scope} {before after : Parameters}
    {predicate : Predicate} (compiled : expr.compile scope before = (.ok predicate, after)) :
    (∀ (index : Nat) (node : Predicate.Node), predicate.nodes[index]? = some node →
      node.opening.toNat = groupsFrom predicate.nodes index % 65536 ∧
      node.closing.toNat = groupsTo predicate.nodes index % 65536 ∧
      groupsFrom predicate.nodes index ≤ (expr.clauses false).alternations none ∧
      groupsTo predicate.nodes index ≤ (expr.clauses false).alternations none) ∧
    (CountersHold predicate.nodes ↔ (expr.clauses false).Fits) ∧
    ((expr.clauses false).alternations none < 65536 → CountersHold predicate.nodes) ∧
    (CountersHold predicate.nodes → Balanced predicate.nodes) := by
  obtain ⟨tree, rfl, related, -⟩ := Expr.compile_ok compiled
  have fits : (expr.clauses false).Fits ↔ tree.Fits := ⟨related.fits, related.flip.fits⟩
  rw [fits, related.alternations none]
  refine ⟨fun index node found => ?_, Tree.countersHold_iff, fun bounded => ?_, fun held => ?_⟩
  · obtain ⟨opening, closing⟩ := Prod.ext_iff.mp (Tree.counters_nodes found)
    exact ⟨opening, closing, Tree.groups_le found⟩
  · exact Tree.countersHold_iff.mpr (Tree.fits_of_alternations bounded)
  · exact (Tree.grouped_nodes (Tree.countersHold_iff.mp held)).balanced

theorem counters_hold_iff_grouped :
    ∃ predicate after,
      (Expr.grouped ⟨"", "", []⟩).compile (.single ⟨"", "", []⟩) .empty = (.ok predicate, after) ∧
      CountersHold predicate.nodes ∧ groupsFrom predicate.nodes 0 = 2 := by
  have compiled : (Expr.grouped ⟨"", "", []⟩).compile (.single ⟨"", "", []⟩) .empty =
      (.ok _, _) := rfl
  obtain ⟨_, _, held, _⟩ := counters_hold_iff compiled
  have held := held (by decide)
  refine ⟨_, _, compiled, held, ?_⟩
  exact (congrArg Prod.fst (held 0 _ rfl)).symm

/-- `true || (true && (true || ...))` with a number of connectives, or with `&&` first. -/
def Expr.alternating (connective : Connective) : Nat → Expr
  | 0 => .literal (.bool true)
  | count + 1 => .connect connective (.literal (.bool true)) (alternating connective.dual count)

namespace Predicate.Tree

def alternating (connective : Connective) : Nat → Tree Condition
  | 0 => .leaf (.constant true)
  | count + 1 => .branch connective (.leaf (.constant true)) (alternating connective.dual count)

theorem compile_alternating (scope : Scope) (before : Parameters) (connective : Connective)
    (count : Nat) :
    Compile.tree scope (.alternating connective count) false before =
      (.ok (alternating connective count), before) := by
  induction count generalizing connective with
  | zero => rfl
  | succ count ih =>
    refine Compile.bind_ok.mpr ⟨_, _, rfl, Compile.bind_ok.mpr ⟨_, _, ih connective.dual, ?_⟩⟩
    rfl

theorem isGrouped_dual (connective : Connective) :
    isGrouped (some connective) connective.dual = true := by
  cases connective <;> rfl

theorem alternations_alternating (outer : Connective) (count : Nat) :
    (alternating outer.dual count).alternations (some outer) = count := by
  induction count generalizing outer with
  | zero => rfl
  | succ count ih =>
    rw [alternating, alternations, isGrouped_dual, if_pos rfl, ih, alternations, Nat.zero_max,
      Nat.add_comm]

/-- Each group opens at a condition of its own, and all of them close at the last one. -/
theorem sum_alternating (outer : Connective) (closing count : Nat) :
    let tallies := (alternating outer.dual count).tallies (some outer) 0 closing
    (tallies.map fun tally => (wrapped tally).1).sum = count ∧
      (tallies.map fun tally => (wrapped tally).2).sum = (closing + count) % 65536 := by
  induction count generalizing outer closing with
  | zero => simp [alternating, tallies, wrapped]
  | succ count ih =>
    obtain ⟨opens, closes⟩ := ih outer.dual (closing + 1)
    simp only [alternating, tallies, isGrouped_dual, if_true, List.singleton_append, List.map_cons,
      List.sum_cons, wrapped] at opens closes ⊢
    rw [opens, closes]
    omega

theorem sum_counters (tree : Tree Condition) :
    openings tree.nodes =
        ((tree.tallies none 0 0).map fun tally => (wrapped tally).1).sum ∧
      closings tree.nodes =
        ((tree.tallies none 0 0).map fun tally => (wrapped tally).2).sum := by
  have opens := congrArg (fun counters => (counters.map Prod.fst).sum) tree.map_counters
  have closes := congrArg (fun counters => (counters.map Prod.snd).sum) tree.map_counters
  simp only [List.map_map] at opens closes
  exact ⟨opens, closes⟩

theorem sum_counters_alternating (connective : Connective) (count : Nat) :
    openings (alternating connective (count + 1)).nodes = count ∧
      closings (alternating connective (count + 1)).nodes = count % 65536 := by
  obtain ⟨opens, closes⟩ := sum_counters (alternating connective (count + 1))
  obtain ⟨opens', closes'⟩ := sum_alternating connective 0 count
  have ungrouped : isGrouped none connective = false := rfl
  simp only [alternating, tallies, ungrouped, Bool.false_eq_true, if_false, List.singleton_append,
    List.map_cons, List.sum_cons, wrapped, Nat.zero_add, Nat.zero_mod]
    at opens closes opens' closes'
  exact ⟨opens.trans opens', closes.trans closes'⟩

end Predicate.Tree

/-- There are predicates with any number of groups around one condition. The counters hold the
numbers below 65536 only. -/
theorem alternating_wraps (scope : Scope) (before : Parameters) (connective : Connective)
    (count : Nat) :
    ∃ predicate,
      (Expr.alternating connective (count + 1)).compile scope before = (.ok predicate, before) ∧
      openings predicate.nodes = count ∧ closings predicate.nodes = count % 65536 ∧
      (CountersHold predicate.nodes ↔ count < 65536) := by
  obtain ⟨opens, closes⟩ := Tree.sum_counters_alternating connective count
  have compiled := Tree.compile_alternating scope before connective (count + 1)
  refine ⟨_, Compile.bind_ok.mpr ⟨_, _, compiled, rfl⟩, opens, closes, ?_⟩
  constructor
  · intro held
    have balanced := (Tree.grouped_nodes (Tree.countersHold_iff.mp held)).balanced.2
    rw [opens, closes] at balanced
    omega
  · intro narrow
    have changes : (Tree.alternating connective (count + 1)).alternations none = count := by
      simp [Tree.alternating, Tree.alternations, Tree.isGrouped, Tree.alternations_alternating]
    exact Tree.countersHold_iff.mpr (Tree.fits_of_alternations (changes.trans_lt narrow))

/-- With 65537 connectives, 65536 groups open and none closes. -/
theorem counters_wrap :
    ∃ predicate,
      (Expr.alternating .or (65536 + 1)).compile (.single ⟨"", "", []⟩) .empty =
        (.ok predicate, .empty) ∧
      openings predicate.nodes = 65536 ∧ closings predicate.nodes = 0 ∧
      ¬ CountersHold predicate.nodes := by
  obtain ⟨predicate, compiled, opens, closes, held⟩ :=
    alternating_wraps (.single ⟨"", "", []⟩) .empty .or 65536
  exact ⟨predicate, compiled, opens, closes, fun holds => Nat.lt_irrefl _ (held.mp holds)⟩

end TypedSql
