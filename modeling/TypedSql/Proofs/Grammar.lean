import TypedSql.Proofs.Tree

namespace TypedSql.Predicate

variable {τ α : Type}

/-- How tightly something is bound together: a primary is a leaf or a group, a chain is made of
parts of the level below under one connective. -/
inductive Level where
  | primary
  | chain (connective : Connective)

def Level.below : Connective → Level
  | .and => .primary
  | .or => .chain .and

def Level.whole : Level :=
  .chain .or

structure Marks (τ : Type) where
  opening : τ
  closing : τ
  connective : Connective → τ

structure Grammar (τ α : Type) extends Marks τ where
  leaf : List τ → α → Prop

def Marks.write (marks : Marks τ) (spell : α → List τ) (outer : Option Connective) :
    Tree α → List τ
  | .leaf a => spell a
  | .branch connective left right =>
    let inner := marks.write spell (some connective) left ++
      marks.connective connective :: marks.write spell (some connective) right
    if Tree.isGrouped outer connective then marks.opening :: inner ++ [marks.closing]
    else inner

/-- The tokens are a condition of the level with this tree. -/
inductive Grammar.Derives (grammar : Grammar τ α) : Level → List τ → Tree α → Prop where
  | leaf {tokens : List τ} {a : α} (phrase : grammar.leaf tokens a) :
      grammar.Derives .primary tokens (.leaf a)
  | group {tokens : List τ} {tree : Tree α} (inner : grammar.Derives .whole tokens tree) :
      grammar.Derives .primary (grammar.opening :: tokens ++ [grammar.closing]) tree
  | single {connective : Connective} {tokens : List τ} {tree : Tree α}
      (only : grammar.Derives (.below connective) tokens tree) :
      grammar.Derives (.chain connective) tokens tree
  | more {connective : Connective} {before after : List τ} {left right : Tree α}
      (first : grammar.Derives (.chain connective) before left)
      (last : grammar.Derives (.below connective) after right) :
      grammar.Derives (.chain connective) (before ++ grammar.connective connective :: after)
        (.branch connective left right)

namespace Grammar

variable {grammar : Grammar τ α}

theorem Derives.toBelow {connective : Connective} {tokens : List τ} {tree : Tree α}
    (derived : grammar.Derives .primary tokens tree) :
    grammar.Derives (.below connective) tokens tree := by
  cases connective with
  | and => exact derived
  | or => exact .single derived

theorem Derives.toChain {connective : Connective} {tokens : List τ} {tree : Tree α}
    (derived : grammar.Derives .primary tokens tree) :
    grammar.Derives (.chain connective) tokens tree :=
  .single derived.toBelow

theorem Derives.toWhole {connective : Connective} {tokens : List τ} {tree : Tree α}
    (derived : grammar.Derives (.chain connective) tokens tree) :
    grammar.Derives .whole tokens tree := by
  cases connective with
  | and => exact .single derived
  | or => exact derived

section

variable (grammar) (spell : α → List τ)

/-- The induction goes over the tree as an operand of each connective: alone, and behind a chain
of the same connective that it goes on with. -/
theorem write_operand (tree : Tree α) (spelled : ∀ a ∈ tree.leaves, grammar.leaf (spell a) a)
    (outer : Connective) :
    grammar.Derives (.chain outer) (grammar.write spell (some outer) tree) tree.leftNested ∧
      ∀ tokens before, grammar.Derives (.chain outer) tokens before →
        grammar.Derives (.chain outer)
          (tokens ++ grammar.connective outer :: grammar.write spell (some outer) tree)
          (tree.chained outer before) := by
  induction tree generalizing outer with
  | leaf a =>
    have primary : grammar.Derives .primary (spell a) (.leaf a) :=
      .leaf (spelled a (by simp [Tree.leaves]))
    simp only [Marks.write, Tree.leftNested, Tree.chained]
    exact ⟨primary.toChain, fun tokens before first => .more first primary.toBelow⟩
  | branch connective left right ihLeft ihRight =>
    have spelledLeft : ∀ a ∈ left.leaves, grammar.leaf (spell a) a :=
      fun a member => spelled a (by simp [Tree.leaves, member])
    have spelledRight : ∀ a ∈ right.leaves, grammar.leaf (spell a) a :=
      fun a member => spelled a (by simp [Tree.leaves, member])
    have inner := (ihRight spelledRight connective).2 _ _ (ihLeft spelledLeft connective).1
    by_cases same : connective = outer
    · subst same
      have flat : Tree.isGrouped (some connective) connective = false := by simp [Tree.isGrouped]
      simp only [Marks.write, flat, Tree.leftNested, Tree.chained, if_true, Bool.false_eq_true,
        if_false]
      refine ⟨inner, fun tokens before first => ?_⟩
      have extended := (ihLeft spelledLeft connective).2 _ _ first
      have whole := (ihRight spelledRight connective).2 _ _ extended
      simpa [List.append_assoc] using whole
    · have grouped : Tree.isGrouped (some outer) connective = true := by
        simp [Tree.isGrouped, Ne.symm same]
      have primary := Derives.group inner.toWhole
      simp only [Marks.write, grouped, Tree.leftNested, Tree.chained, same, if_true, if_false]
      exact ⟨primary.toChain, fun tokens before first => .more first primary.toBelow⟩

/-- What is written of a tree is read as the same tree, up to the nesting of its chains. -/
theorem derives_write (tree : Tree α) (spelled : ∀ a ∈ tree.leaves, grammar.leaf (spell a) a) :
    grammar.Derives .whole (grammar.write spell none tree) tree.leftNested := by
  cases tree with
  | leaf a =>
    have primary : grammar.Derives .primary (spell a) (.leaf a) :=
      .leaf (spelled a (by simp [Tree.leaves]))
    simp only [Marks.write, Tree.leftNested]
    exact primary.toChain
  | branch connective left right =>
    have first := (write_operand grammar spell left
      (fun a member => spelled a (by simp [Tree.leaves, member])) connective).1
    have second := (write_operand grammar spell right
      (fun a member => spelled a (by simp [Tree.leaves, member])) connective).2 _ _ first
    have flat : Tree.isGrouped none connective = false := rfl
    simp only [Marks.write, flat, Tree.leftNested, Bool.false_eq_true, if_false]
    exact second.toWhole

end

end Grammar

end TypedSql.Predicate
