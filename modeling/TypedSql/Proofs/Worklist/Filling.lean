import TypedSql.Proofs.Worklist.Layout

namespace TypedSql.Worklist

open Predicate (Tree Content)

/-- Parentheses are not counted while an arena is filled. -/
def ungrouped : Grouping :=
  fun _ _ => 0

theorem length_adopt {arena adopted : Arena} {parent : Option Nat} {side : Side}
    (done : arena.adopt parent side = some adopted) : adopted.length = arena.length := by
  cases parent with
  | none => rw [← Option.some.inj done]
  | some parent => exact length_modifyAt done

theorem place_eq {arena adopted : Arena} {parent : Option Nat} {side : Side}
    (done : arena.adopt parent side = some adopted) (content : Content) :
    arena.place parent side content = some (adopted ++ [.fresh content parent]) := by
  simp [Arena.place, done]

theorem adopt_append_cons {before : Arena} (slot : Slot) (after : Arena) (side : Side)
    {parent size : Nat} (here : parent = before.length) (filled : after.length = size) :
    Arena.adopt (before ++ slot :: after) (some parent) side =
      some (before ++ slot.adopt side (parent + 1 + size) :: after) := by
  rw [Arena.adopt, modifyAt_append_cons _ here, ← right_start here filled]

/-- A frame leaves the slots of its tree at the end of the arena, and what is below it on the stack
goes on from there. -/
theorem flatten_frame (scope : Scope) (expr : Expr) (negated : Bool) (outer : Option Connective)
    {parent : Option Nat} {side : Side} (stack : List Frame) {arena adopted : Arena}
    (done : arena.adopt parent side = some adopted) :
    flatten scope (⟨expr, negated, parent, side⟩ :: stack) arena =
      Compile.tree scope expr negated >>= fun tree =>
        flatten scope stack (adopted ++ slots ungrouped outer parent 0 0 arena.length tree) := by
  fun_induction Compile.tree scope expr negated
    generalizing outer parent side stack arena adopted with
  | case1 negated inner ih =>
    rw [flatten]
    exact ih outer stack done
  | case2 negated connective left right ihLeft ihRight =>
    have here : arena.length = adopted.length := (length_adopt done).symm
    rw [flatten]
    simp only [place_eq done, bind_assoc, pure_bind]
    generalize (if negated then connective.dual else connective) = written
    -- The connective adopts its left side when that is reached, then its right side.
    let slot := Slot.fresh (.connective written) parent
    let adopting := slot.adopt .left (arena.length + 1)
    have first : Arena.adopt (adopted ++ [slot]) (some arena.length) .left =
        some (adopted ++ [adopting]) := adopt_append_cons slot [] .left here rfl
    rw [ihLeft (some written) _ first, ← left_start here]
    refine bind_congr fun leftTree => ?_
    rw [List.append_assoc, List.singleton_append]
    have second := adopt_append_cons adopting
      (slots ungrouped (some written) (some arena.length) 0 0 (arena.length + 1) leftTree)
      .right here (length_slots leftTree)
    rw [ihRight (some written) _ second, ← right_start here (length_slots leftTree)]
    refine bind_congr fun rightTree => ?_
    rw [List.append_assoc, List.cons_append]
    rfl
  | case3 negated expr noNegation noConnective =>
    rw [flatten]
    · simp only [bind_assoc, pure_bind, place_eq done]
      rfl
    · exact noNegation
    · exact noConnective

theorem flatten_eq (scope : Scope) (expr : Expr) :
    flatten scope [⟨expr, false, none, .left⟩] [] =
      (some ∘ slots ungrouped none none 0 0 0) <$> Compile.tree scope expr false := by
  have done : Arena.adopt [] none .left = some [] := rfl
  rw [flatten_frame scope expr false none [] done, map_eq_pure_bind]
  refine bind_congr fun tree => ?_
  rw [flatten]
  rfl

end TypedSql.Worklist
