import TypedSql.Proofs.Reading
import TypedSql.Proofs.Sql.Phrase

namespace TypedSql.Sql

open Predicate (Grammar Level Piece Tree)

/-- Where a scan of a condition has got to: the pieces it has cut off, the phrase under way, how
many parentheses of the phrase are open, and whether the `AND` of a `BETWEEN` is still to come. -/
structure Scanner where
  pieces : List (Piece Sql)
  phrase : Sql
  depth : Nat
  range : Bool

namespace Scanner

def add (scanner : Scanner) (chunk : Chunk) : Scanner :=
  { scanner with phrase := scanner.phrase ++ [chunk] }

/-- The pieces with the phrase under way, if there is one, as a leaf. -/
def flush (scanner : Scanner) : List (Piece Sql) :=
  if scanner.phrase.isEmpty then scanner.pieces else scanner.pieces ++ [.leaf scanner.phrase]

def cut (scanner : Scanner) (piece : Piece Sql) : Scanner :=
  ⟨scanner.flush ++ [piece], [], 0, false⟩

/-- Parentheses belong to a phrase that is under way, an `AND` to the `BETWEEN` before it. -/
def step (scanner : Scanner) (chunk : Chunk) : Scanner :=
  match chunk with
  | .token (.mark .leftParen) =>
    if scanner.phrase.isEmpty then scanner.cut .opening
    else { scanner.add chunk with depth := scanner.depth + 1 }
  | .token (.mark .rightParen) =>
    if scanner.depth = 0 then scanner.cut .closing
    else { scanner.add chunk with depth := scanner.depth - 1 }
  | .token (.keyword .BETWEEN) => { scanner.add chunk with range := true }
  | .token (.keyword .AND) =>
    if scanner.range then { scanner.add chunk with range := false }
    else scanner.cut (.connective .and)
  | .token (.keyword .OR) => scanner.cut (.connective .or)
  | chunk => scanner.add chunk

def run (scanner : Scanner) (sql : Sql) : Scanner :=
  sql.foldl step scanner

theorem run_append (scanner : Scanner) (before after : Sql) :
    scanner.run (before ++ after) = (scanner.run before).run after :=
  List.foldl_append

theorem run_cons (scanner : Scanner) (chunk : Chunk) (rest : Sql) :
    scanner.run (chunk :: rest) = (scanner.step chunk).run rest :=
  rfl

/-- The scanner after a phrase that it keeps together. -/
def keep (scanner : Scanner) (sql : Sql) : Scanner :=
  { scanner with phrase := scanner.phrase ++ sql }

end Scanner

/-- A scan that meets the chunks keeps them together, wherever it has got to. -/
def Kept (sql : Sql) : Prop :=
  ∀ scanner : Scanner, scanner.run sql = scanner.keep sql

theorem Kept.append {before after : Sql} (first : Kept before) (last : Kept after) :
    Kept (before ++ after) := by
  intro scanner
  rw [Scanner.run_append, first, last]
  simp [Scanner.keep, List.append_assoc]

theorem Kept.cons {chunk : Chunk} {rest : Sql} (first : Kept [chunk]) (last : Kept rest) :
    Kept (chunk :: rest) :=
  first.append last

theorem Kept.relation {operator : Mark} (other : operator ≠ .leftParen ∧ operator ≠ .rightParen) :
    Kept [.mark operator] := by
  intro scanner
  cases operator with
  | leftParen => exact (other.1 rfl).elim
  | rightParen => exact (other.2 rfl).elim
  | _ => rfl

theorem Kept.parens {inner : Sql} (kept : Kept inner) {scanner : Scanner}
    (inside : scanner.phrase ≠ []) : scanner.run (parens inner) = scanner.keep (parens inner) := by
  have opened : scanner.step (.mark .leftParen) =
      { scanner.keep [.mark .leftParen] with depth := scanner.depth + 1 } := by
    simp [Scanner.step, Chunk.mark, Scanner.add, Scanner.keep, inside]
  rw [Sql.parens, List.cons_append, Scanner.run_cons, opened, Scanner.run_append, kept]
  simp [Scanner.run, Scanner.step, Chunk.mark, Scanner.add, Scanner.keep]

theorem Kept.call {inner : Sql} (arguments : Kept inner) (name : String) :
    Kept (call name inner) := by
  intro scanner
  rw [Sql.call, Scanner.run_cons, show scanner.step (.function name) = scanner.keep [.function name]
    from rfl, arguments.parens (by simp [Scanner.keep])]
  simp [Scanner.keep]

theorem Phrase.kept {role : Role} {sql : Sql} (phrase : Phrase role sql) : Kept sql := by
  induction phrase with
  | column | parameter | null | literal | word => exact fun _ => rfl
  | call name _ ih => exact ih.call name
  | joined joins _ _ first second =>
    exact first.append (.cons (.relation (by rcases joins with rfl | rfl <;> simp)) second)
  | value _ ih | single _ ih => exact ih
  | part text _ ih => exact .cons (fun _ => rfl) (.cons (fun _ => rfl) ih)
  | typed _ type ih => exact ih.append (.cons (fun _ => rfl) fun _ => rfl)
  | more _ _ first rest => exact first.append (.cons (fun _ => rfl) rest)

theorem negatable_ne_nil (negated : Bool) (keyword : Keyword) : negatable negated keyword ≠ [] := by
  cases negated <;> simp [negatable]

/-- A leaf is kept together by a scan that begins with it. -/
theorem Leaf.run {sql : Sql} (leaf : Leaf sql) (pieces : List (Piece Sql)) :
    Scanner.run ⟨pieces, [], 0, false⟩ sql = ⟨pieces, sql, 0, false⟩ := by
  have kept : ∀ {sql : Sql}, Kept sql →
      Scanner.run ⟨pieces, [], 0, false⟩ sql = ⟨pieces, sql, 0, false⟩ := fun kept => kept _
  cases leaf with
  | relation relates first second =>
    refine kept (first.kept.append (.cons (.relation ?_) second.kept))
    constructor <;> rintro rfl <;> cases relates
  | null operand => exact kept (operand.kept.append (.cons (fun _ => rfl) fun _ => rfl))
  | present operand =>
    exact kept (operand.kept.append (.cons (fun _ => rfl) (.cons (fun _ => rfl) fun _ => rfl)))
  | @pattern keyword left right negated searches first second =>
    refine kept ((first.kept.append ?_).append second.kept)
    rcases searches with rfl | rfl <;> cases negated <;>
      first | exact fun _ => rfl | exact .cons (fun _ => rfl) fun _ => rfl
  | @range left low high negated first second third =>
    have opened : ∀ phrase, Scanner.run ⟨pieces, phrase, 0, false⟩ (negatable negated .BETWEEN) =
        ⟨pieces, phrase ++ negatable negated .BETWEEN, 0, true⟩ := by
      intro phrase
      cases negated with
      | false => rfl
      | true => simp [Scanner.run, negatable, Scanner.step, Scanner.add, Chunk.keyword]
    have joined : ∀ phrase, Scanner.step ⟨pieces, phrase, 0, true⟩ (.keyword .AND) =
        ⟨pieces, phrase ++ [.keyword .AND], 0, false⟩ := fun _ => rfl
    rw [Scanner.run_append, Scanner.run_append, Scanner.run_append, kept first.kept, opened,
      second.kept, Scanner.run_cons, Scanner.keep, joined, third.kept]
    simp [Scanner.keep]
  | @member left items negated first list =>
    have listed : Kept (left ++ negatable negated .IN) := by
      refine first.kept.append ?_
      cases negated with
      | false => exact fun _ => rfl
      | true => exact .cons (fun _ => rfl) fun _ => rfl
    have filled : left ++ negatable negated .IN ≠ [] := by simp [negatable_ne_nil]
    rw [Scanner.run_append, kept listed, list.kept.parens filled]
    rfl
  | search list => exact kept (list.kept.call _)
  | searchNot list => exact kept (.cons (fun _ => rfl) (list.kept.call _))

theorem Leaf.ne_nil {sql : Sql} (leaf : Leaf sql) : sql ≠ [] := by
  cases leaf <;> simp [keywords, call, negatable_ne_nil]

namespace Scanner

def start (pieces : List (Piece Sql)) : Scanner :=
  ⟨pieces, [], 0, false⟩

/-- The scan is not within anything, and these are the pieces so far. -/
structure Settles (scanner : Scanner) (pieces : List (Piece Sql)) : Prop where
  flush : scanner.flush = pieces
  depth : scanner.depth = 0
  range : scanner.range = false

variable {scanner : Scanner} {pieces : List (Piece Sql)}

theorem Settles.closing (settled : scanner.Settles pieces) :
    scanner.step (.mark .rightParen) = start (pieces ++ [.closing]) := by
  simp [step, Chunk.mark, settled.depth, cut, settled.flush, start]

theorem Settles.connective (settled : scanner.Settles pieces) (connective : Connective) :
    scanner.step (ofConnective connective) = start (pieces ++ [.connective connective]) := by
  cases connective <;>
    simp [step, ofConnective, Chunk.keyword, settled.range, cut, settled.flush, start]

theorem settles_start (pieces : List (Piece Sql)) : (start pieces).Settles pieces :=
  ⟨rfl, rfl, rfl⟩

end Scanner

/-- A scan cuts a condition into pieces that have its tree. -/
theorem run_derives {level : Level} {sql tree} (derived : grammar.Derives level sql tree)
    (before : List (Piece Sql)) :
    ∃ pieces, Piece.grammar.Derives level pieces tree ∧
      ((Scanner.start before).run sql).Settles (before ++ pieces) := by
  induction derived generalizing before with
  | @leaf sql part phrase =>
    obtain ⟨rfl, leaf⟩ := phrase
    refine ⟨[.leaf sql], .leaf rfl, ?_⟩
    rw [Scanner.start, leaf.run]
    exact ⟨by simp [Scanner.flush, leaf.ne_nil], rfl, rfl⟩
  | @group sql tree _ ih =>
    obtain ⟨pieces, read, settled⟩ := ih (before ++ [.opening])
    refine ⟨.opening :: pieces ++ [.closing], .group read, ?_⟩
    have opened : (Scanner.start before).step grammar.opening =
        Scanner.start (before ++ [.opening]) := rfl
    rw [List.cons_append, Scanner.run_cons, opened, Scanner.run_append]
    change (Scanner.step _ grammar.closing).Settles _
    have closed : Scanner.step _ grammar.closing = _ := settled.closing
    rw [closed, List.append_assoc, List.append_assoc]
    exact Scanner.settles_start _
  | single _ ih =>
    obtain ⟨pieces, read, settled⟩ := ih before
    exact ⟨pieces, .single read, settled⟩
  | @more connective first last left right _ _ ihFirst ihLast =>
    obtain ⟨pieces, read, settled⟩ := ihFirst before
    obtain ⟨others, readLast, settledLast⟩ := ihLast (before ++ pieces ++ [.connective connective])
    refine ⟨pieces ++ .connective connective :: others, .more read readLast, ?_⟩
    have joined : Scanner.step _ (grammar.connective connective) = _ :=
      settled.connective connective
    rw [Scanner.run_append, Scanner.run_cons, joined]
    simpa [List.append_assoc] using settledLast

def parse? (sql : Sql) : Option (Predicate.Tree Sql) :=
  Piece.read? ((Scanner.start []).run sql).flush

theorem parse?_of_derives {sql : Sql} {tree : Predicate.Tree Sql}
    (derived : grammar.Derives .whole sql tree) : parse? sql = some tree := by
  obtain ⟨pieces, read, settled⟩ := run_derives derived []
  unfold parse?
  rw [settled.flush]
  exact Piece.read?_of_derives read

/-- No condition has two trees. -/
theorem derives_unique {sql : Sql} {tree other : Predicate.Tree Sql}
    (first : grammar.Derives .whole sql tree) (second : grammar.Derives .whole sql other) :
    tree = other :=
  Option.some.inj ((parse?_of_derives first).symm.trans (parse?_of_derives second))

end TypedSql.Sql
