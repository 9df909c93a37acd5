import TypedSql.Number.Power
import TypedSql.Text.Pattern.Place

namespace TypedSql.Text

inductive Pattern where
  | empty
  | oneOf (chars : Pattern.CharClass)
  | assert (place : Pattern.Place)
  | sequence (first second : Pattern)
  | either (first second : Pattern)
  | repeated (inner : Pattern) (least : Nat) (most : Option Nat)

namespace Pattern

/-- Sets of positions in a text are natural numbers: position `i` is in the set of bit `i`. -/
abbrev Positions := Nat

def charPositions (chars : CharClass) : List Char → Positions
  | [] => 0
  | c :: rest => 2 * charPositions chars rest + (if chars.contains c then 1 else 0)

def placePositions (place : Place) (before : Option Char) : List Char → Positions
  | [] => if place.holds before none then 1 else 0
  | c :: rest =>
    2 * placePositions place (some c) rest + (if place.holds before (some c) then 1 else 0)

/-- Where a match of the pattern can end that starts at one of the given positions. After more
rounds than there are positions a repetition reaches nothing new. -/
def ends (text : List Char) : Pattern → Positions → Positions
  | empty, starts => starts
  | oneOf chars, starts => 2 * (starts &&& charPositions chars text)
  | assert place, starts => starts &&& placePositions place none text
  | sequence first second, starts => second.ends text (first.ends text starts)
  | either first second, starts => first.ends text starts ||| second.ends text starts
  | repeated inner least most, starts =>
    let rounds := text.length + 1
    let required := Nat.repeat (inner.ends text) (min least rounds) starts
    let optional :=
      match most with
      | some most => min (most - least) rounds
      | none => rounds
    Nat.repeat (fun reached => reached ||| inner.ends text reached) optional required

def isMatch (pattern : Pattern) (text : String) : Bool :=
  let chars := text.toList
  pattern.ends chars (Number.twoTo (chars.length + 1) - 1) != 0

/-- An estimate, in bytes, of the automaton that the pattern would compile to. -/
def weight : Pattern → Nat
  | empty => 32
  | oneOf chars => 32 * chars.width
  | assert _ => 32
  | sequence first second => first.weight + second.weight
  | either first second => first.weight + second.weight + 32
  | repeated inner least most =>
    match most with
    | some most => inner.weight * most + 32
    | none => inner.weight * (least + 1) + 32

def weightLimit : Nat := 10 * 1024 * 1024

end Pattern

end TypedSql.Text
