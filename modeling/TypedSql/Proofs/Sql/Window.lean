-- No smaller import brings `Int.toInt?_repr`.
import Mathlib
import TypedSql.Proofs.Sql.Words
import TypedSql.Proofs.Text.Run

namespace TypedSql

/-- A run of rows: all after the first `skip`, or no more than `take` of them. -/
structure Window where
  skip : Nat
  take : Option Nat

namespace Window

def all : Window :=
  ⟨0, none⟩

def rows {Row : Type} (window : Window) (rows : List Row) : List Row :=
  match window.take with
  | some count => (rows.drop window.skip).take count
  | none => rows.drop window.skip

theorem rows_eq {Row : Type} (window : Window) (rows : List Row) :
    window.rows rows = (rows.drop window.skip).take (window.take.getD rows.length) := by
  obtain ⟨skip, _ | count⟩ := window
  · have fewer : (rows.drop skip).length ≤ rows.length := (List.drop_sublist skip rows).length_le
    exact (List.take_of_length_le fewer).symm
  · rfl

end Window

namespace Sql

namespace Chunk

def number? : Chunk → Option Int
  | raw text => text.toInt?
  | _ => none

def count? (chunk : Chunk) : Option Nat :=
  chunk.number?.bind Int.toNat?

/-- The limit that a number sets. In SQLite a negative one sets none. -/
def limit? (dialect : Dialect) (chunk : Chunk) : Option (Option Nat) :=
  match dialect, chunk.number? with
  | _, some (.ofNat count) => some (some count)
  | .sqlLite, some (.negSucc _) => some none
  | _, _ => none

end Chunk

/-- Whether the keyword begins the words at the end of a query that choose rows. -/
def Keyword.opensPage : Keyword → Bool
  | LIMIT | OFFSET => true
  | _ => false

/-- The end of a query, from the first of these keywords on. -/
def ending (sql : Sql) : Sql :=
  sql.dropWhile fun chunk => !chunk.keyword?.any Keyword.opensPage

/-- `[LIMIT n [OFFSET m]]`, or `OFFSET m` alone, which MySQL and SQLite do not know. -/
def limitOffset? (dialect : Dialect) : Sql → Option Window
  | [] => some .all
  | [.token (.keyword .LIMIT), limit] => do return ⟨0, ← limit.limit? dialect⟩
  | [.token (.keyword .LIMIT), limit, .token (.keyword .OFFSET), offset] => do
    return ⟨← offset.count?, ← limit.limit? dialect⟩
  | [.token (.keyword .OFFSET), offset] =>
    if dialect = .postgres then do return ⟨← offset.count?, none⟩ else none
  | _ => none

/-- `[OFFSET m ROWS [FETCH NEXT n ROWS ONLY]]` -/
def offsetFetch? : Sql → Option Window
  | [] => some .all
  | [.token (.keyword .OFFSET), offset, .token (.keyword .ROWS)] => do
    return ⟨← offset.count?, none⟩
  | [.token (.keyword .OFFSET), offset, .token (.keyword .ROWS), .token (.keyword .FETCH),
      .token (.keyword .NEXT), limit, .token (.keyword .ROWS), .token (.keyword .ONLY)] => do
    return ⟨← offset.count?, some (← limit.count?)⟩
  | _ => none

/-- The rows that the end of a query chooses, in the words of the dialect. -/
def page? (dialect : Dialect) (page : Sql) : Option Window :=
  match dialect with
  | .sqlServer | .oracle => offsetFetch? page
  | .postgres | .mySql | .sqlLite => limitOffset? dialect page

/-- The number of `SELECT TOP (n)`. -/
def top? : Sql → Option Nat
  | .token (.keyword .SELECT) :: .token (.keyword .TOP) :: .token (.mark .leftParen) :: limit ::
      .token (.mark .rightParen) :: _ => limit.count?
  | _ => none

/-- The rows that a query chooses of its result. Only SQL Server knows `TOP`, and not with an
offset. -/
def window? (dialect : Dialect) (sql : Sql) : Option Window :=
  if .TOP ∉ words sql then
    page? dialect (ending sql)
  else if dialect = .sqlServer ∧ ending sql = [] then do
    return ⟨0, some (← top? sql)⟩
  else
    none

theorem number?_number (value : Int) : (Chunk.number value).number? = some value :=
  Int.toInt?_repr value

@[simp]
theorem count?_number (count : Nat) : (Chunk.number count).count? = some count := by
  rw [Chunk.count?, number?_number]
  rfl

@[simp]
theorem limit?_number (dialect : Dialect) (count : Nat) :
    (Chunk.number count).limit? dialect = some (some count) := by
  unfold Chunk.limit?
  rw [number?_number]

section

variable (dialect : Dialect) (skip take : Nat)

theorem limitOffset?_limit :
    limitOffset? dialect [.keyword .LIMIT, .number take] = some ⟨0, some take⟩ := by
  change ((Chunk.number take).limit? dialect >>= fun take => some (⟨0, take⟩ : Window)) = _
  rw [limit?_number]
  rfl

theorem limitOffset?_both :
    limitOffset? dialect [.keyword .LIMIT, .number take, .keyword .OFFSET, .number skip] =
      some ⟨skip, some take⟩ := by
  change ((Chunk.number skip).count? >>= fun skip => (Chunk.number take).limit? dialect >>=
    fun take => some (⟨skip, take⟩ : Window)) = _
  rw [limit?_number, count?_number]
  rfl

theorem limitOffset?_offset :
    limitOffset? .postgres [.keyword .OFFSET, .number skip] = some ⟨skip, none⟩ := by
  change ((Chunk.number skip).count? >>= fun skip => some (⟨skip, none⟩ : Window)) = _
  rw [count?_number]
  rfl

theorem limitOffset?_negative :
    limitOffset? .sqlLite [.keyword .LIMIT, .number (-1), .keyword .OFFSET, .number skip] =
      some ⟨skip, none⟩ := by
  have unlimited : (Chunk.number (-1)).limit? .sqlLite = some none := by
    unfold Chunk.limit?
    rw [number?_number]
    rfl
  change ((Chunk.number skip).count? >>= fun skip => (Chunk.number (-1)).limit? .sqlLite >>=
    fun take => some (⟨skip, take⟩ : Window)) = _
  rw [unlimited, count?_number]
  rfl

theorem offsetFetch?_offset :
    offsetFetch? [.keyword .OFFSET, .number skip, .keyword .ROWS] = some ⟨skip, none⟩ := by
  change ((Chunk.number skip).count? >>= fun skip => some (⟨skip, none⟩ : Window)) = _
  rw [count?_number]
  rfl

theorem offsetFetch?_both :
    offsetFetch? [.keyword .OFFSET, .number skip, .keyword .ROWS, .keyword .FETCH, .keyword .NEXT,
      .number take, .keyword .ROWS, .keyword .ONLY] = some ⟨skip, some take⟩ := by
  change ((Chunk.number skip).count? >>= fun skip => (Chunk.number take).count? >>=
    fun take => some (⟨skip, some take⟩ : Window)) = _
  rw [count?_number, count?_number]
  rfl

end

section

variable {dialect : Dialect} {before page : Sql}

theorem ending_append (earlier : ∀ name ∈ words before, name.opensPage = false)
    (starts : ∀ chunk ∈ page.head?, chunk.keyword?.any Keyword.opensPage) :
    ending (before ++ page) = page := by
  refine Text.dropWhile_run (fun chunk member => ?_) (fun chunk first => ?_)
  · cases held : chunk.keyword? with
    | none => rfl
    | some name =>
      have inside : name ∈ words before := List.mem_filterMap.mpr ⟨chunk, member, held⟩
      simp [earlier name inside]
  · rw [starts chunk first]
    rfl

theorem ending_eq_nil (earlier : ∀ name ∈ words before, name.opensPage = false) :
    ending before = [] := by
  have ended := @ending_append before [] earlier (by simp)
  rwa [List.append_nil] at ended

theorem window?_append (topless : .TOP ∉ words (before ++ page))
    (earlier : ∀ name ∈ words before, name.opensPage = false)
    (starts : ∀ chunk ∈ page.head?, chunk.keyword?.any Keyword.opensPage) :
    window? dialect (before ++ page) = page? dialect page := by
  rw [window?, if_pos topless, ending_append earlier starts]

theorem window?_top {limit : Nat} {rest : Sql}
    (earlier : ∀ name ∈ words rest, name.opensPage = false) :
    window? .sqlServer (.keyword .SELECT :: .keyword .TOP :: parens [.number limit] ++ rest) =
      some ⟨0, some limit⟩ := by
  have before : ∀ name ∈ words (.keyword .SELECT :: .keyword .TOP :: parens [.number limit] ++
      rest), name.opensPage = false := by
    simpa [Keyword.opensPage] using earlier
  have ended := ending_eq_nil before
  have read : top? (.keyword .SELECT :: .keyword .TOP :: parens [.number limit] ++ rest) =
      some limit := count?_number limit
  rw [window?, if_neg (by simp), if_pos ⟨rfl, ended⟩, read]
  rfl

end

end Sql

end TypedSql
