import TypedSql.Predicate.Compilation

/-!
A compiler that does not call itself. The expressions that wait to be compiled are frames on a
stack, and the pieces of the predicate are slots of an arena, which know one another by index. An
index behind the last slot stops the compiler, and so does a loop that takes more steps than the
slots of the arena account for: both are `none`.
-/

namespace TypedSql

open Predicate (Content Node)

namespace Predicate

def Content.connective? : Content → Option Connective
  | .condition _ => none
  | .connective own => some own

def Node.opened (node : Node) : Node :=
  { node with opening := node.opening + 1 }

def Node.closed (node : Node) : Node :=
  { node with closing := node.closing + 1 }

end Predicate

namespace Worklist

inductive Side where
  | left
  | right
  deriving DecidableEq

/-- An expression that waits to be compiled, and the slot under which it comes to stand. -/
structure Frame where
  expr : Expr
  negated : Bool
  parent : Option Nat
  side : Side

/-- A piece of a predicate. The node is there until it is written out. -/
structure Slot where
  node : Option Node
  parent : Option Nat
  children : Side → Option Nat

namespace Slot

def fresh (content : Content) (parent : Option Nat) : Slot :=
  ⟨some ⟨content, none, 0, 0, 0⟩, parent, fun _ => none⟩

def connective? (slot : Slot) : Option Connective :=
  slot.node.bind fun node => node.content.connective?

def adopt (side : Side) (child : Nat) (slot : Slot) : Slot :=
  { slot with children := fun other => if other = side then some child else slot.children other }

def opened (slot : Slot) : Slot :=
  { slot with node := slot.node.map Node.opened }

def closed (slot : Slot) : Slot :=
  { slot with node := slot.node.map Node.closed }

def emptied (slot : Slot) : Slot :=
  { slot with node := none }

end Slot

abbrev Arena := List Slot

def modifyAt {α : Type} (items : List α) (index : Nat) (change : α → α) : Option (List α) := do
  let item ← items[index]?
  return items.set index (change item)

namespace Arena

def adopt (arena : Arena) (parent : Option Nat) (side : Side) : Option Arena :=
  match parent with
  | some parent => modifyAt arena parent (Slot.adopt side arena.length)
  | none => some arena

def place (arena : Arena) (parent : Option Nat) (side : Side) (content : Content) :
    Option Arena := do
  let adopted ← arena.adopt parent side
  return adopted ++ [.fresh content parent]

/-- The index of the first or the last leaf under an index. -/
def edge (arena : Arena) (side : Side) : Nat → Nat → Option Nat
  | 0, _ => none
  | steps + 1, index => do
    let slot ← arena[index]?
    match slot.children side with
    | some child => edge arena side steps child
    | none => return index

/-- Puts the pieces under an index in parentheses, if a connective stands there under another
one. -/
def group (arena : Arena) (index : Nat) : Option Arena := do
  let slot ← arena[index]?
  match slot.parent with
  | none => return arena
  | some parent =>
    let outer ← arena[parent]?
    if slot.connective?.isNone || slot.connective? == outer.connective? then
      return arena
    else
      let first ← arena.edge .left arena.length index
      let last ← arena.edge .right arena.length index
      let arena ← modifyAt arena first Slot.opened
      modifyAt arena last Slot.closed

/-- The indices from the left to the right. Those on the stack and what is right of them follow
the ones under the current index. -/
def walk (arena : Arena) : Nat → List Nat → Option Nat → List Nat → Option (List Nat)
  | 0, _, _, _ => none
  | steps + 1, stack, some index, order => do
    let slot ← arena[index]?
    walk arena steps (index :: stack) (slot.children .left) order
  | steps + 1, index :: stack, none, order => do
    let slot ← arena[index]?
    walk arena steps stack (slot.children .right) (order ++ [index])
  | _ + 1, [], none, order => some order

def number (positions : List Nat) (entry : Nat × Nat) : Option (List Nat) :=
  modifyAt positions entry.1 fun _ => entry.2

/-- Takes the node at an index out of the arena and writes it behind the others, at a position. -/
def take (positions : List Nat) (written : Arena × List Node) (entry : Nat × Nat) :
    Option (Arena × List Node) := do
  let (arena, nodes) := written
  let slot ← arena[entry.1]?
  let parent ← slot.parent.mapM fun parent => positions[parent]?
  let rest ← modifyAt arena entry.1 Slot.emptied
  match slot.node with
  | some node => return (rest, nodes ++ [{ node with parent, position := entry.2 }])
  | none => return (rest, nodes)

def linearize (arena : Arena) : Option Predicate := do
  if arena.isEmpty then
    return ⟨[]⟩
  else
    let arena ← (List.range arena.length).foldlM group arena
    let order ← arena.walk (2 * arena.length + 1) [] (some 0) []
    let positions ← order.zipIdx.foldlM number (List.replicate arena.length 0)
    let (_, nodes) ← order.zipIdx.foldlM (take positions) (arena, [])
    return ⟨nodes⟩

end Arena

/-- The number of frames that are taken from the stack for an expression. -/
def rounds : Expr → Nat
  | .not inner => rounds inner + 1
  | .connect _ left right => rounds left + rounds right + 1
  | _ => 1

theorem rounds_pos (expr : Expr) : 0 < rounds expr := by
  cases expr <;> simp only [rounds] <;> omega

def remaining : List Frame → Nat
  | [] => 0
  | frame :: stack => rounds frame.expr + remaining stack

/-- Compiles the expressions on the stack into an arena. The right side of a connective waits below
the left one. -/
def flatten (scope : Scope) : List Frame → Arena → Compile (Option Arena)
  | [], arena => return some arena
  | ⟨.not inner, negated, parent, side⟩ :: stack, arena =>
    flatten scope (⟨inner, !negated, parent, side⟩ :: stack) arena
  | ⟨.connect connective left right, negated, parent, side⟩ :: stack, arena =>
    let connective := if negated then connective.dual else connective
    match arena.place parent side (.connective connective) with
    | some placed =>
      flatten scope (⟨left, negated, some arena.length, .left⟩ ::
        ⟨right, negated, some arena.length, .right⟩ :: stack) placed
    | none => return none
  | ⟨expr, negated, parent, side⟩ :: stack, arena => do
    let condition ← Compile.condition scope expr negated
    match arena.place parent side (.condition condition) with
    | some placed => flatten scope stack placed
    | none => return none
termination_by stack => remaining stack
decreasing_by
  · simp only [remaining, rounds]
    omega
  · simp only [remaining, rounds]
    omega
  · have := rounds_pos expr
    simp only [remaining]
    omega

def compile (expr : Expr) (scope : Scope) : Compile (Option Predicate) := do
  let arena ← flatten scope [⟨expr, false, none, .left⟩] []
  return arena.bind Arena.linearize

end Worklist

end TypedSql
