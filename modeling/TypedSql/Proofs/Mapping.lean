import Mathlib.Data.List.Forall2
import TypedSql.Row
import TypedSql.Proofs.Except
import TypedSql.Proofs.Value.WireForm

namespace TypedSql

/-- What the row holds under the name of the field is the value, as it is or in its wire form. Where
the row holds nothing under that name, the value is what the field holds by default. -/
structure Field.BroughtBy (field : Field) (value : Value) (row : Row) : Prop where
  present : ∀ cell, (field.name, cell) ∈ row.cells → cell = value ∨ cell = value.wire
  absent : field.name ∉ row.columns → value.Same field.type.default

/-- The row is an entity of the table: it has a value of the right type for each field. -/
def Table.Holds (table : Table) (entity : Row) : Prop :=
  List.Forall₂ (fun field cell => cell.1 = field.name ∧ field.type.admits cell.2) table.fields
    entity.cells

theorem ColumnType.admits_cases {type : ColumnType} {value : Value} (admitted : type.admits value) :
    value = .null ∧ type.default = .null ∨ value.fieldType? = some type.field := by
  unfold admits at admitted
  split at admitted
  · rename_i typed
    right
    rw [typed, eq_of_beq admitted]
  · rename_i untyped
    left
    refine ⟨?_, by rw [default, if_pos admitted]⟩
    cases value <;> first | rfl | cases untyped

namespace Row

variable {row : Row} {name : String} {cell : Value}

theorem mem_of_get? (found : row.get? name = some cell) : (name, cell) ∈ row.cells := by
  obtain ⟨before, after, split, _⟩ := List.lookup_eq_some_iff.mp found
  rw [split]
  simp

theorem not_mem_columns (missing : row.get? name = none) : name ∉ row.columns := by
  intro member
  obtain ⟨entry, listed, same⟩ := List.mem_map.mp member
  have other := List.lookup_eq_none_iff.mp missing entry listed
  simp [same] at other

theorem getOrDefault_absent {type : ColumnType} (missing : row.get? name = none) :
    row.getOrDefault name type = .ok type.default := by
  rw [getOrDefault, missing]

theorem getOrDefault_null {type : ColumnType} (found : row.get? name = some .null) :
    row.getOrDefault name type = .ok type.default := by
  rw [getOrDefault, found]

theorem getOrDefault_present {type : ColumnType} {read : Value} (found : row.get? name = some cell)
    (present : cell ≠ .null) (converted : cell.convert type.field = .ok read) :
    row.getOrDefault name type = .ok read := by
  rw [getOrDefault, found]
  split
  · rename_i none
    cases none
  · rename_i null
    cases null
    exact (present rfl).elim
  · rename_i same
    cases same
    rw [converted]
    rfl

end Row

/-- A field reads as it was written, with the one exception of a leap second within a minute that
the row holds in its wire form. -/
structure Row.ReadBack (row : Row) (own read : String × Value) : Prop where
  name : read.1 = own.1
  kept : row.get? own.1 = some own.2 → read.2 = own.2
  wired : row.get? own.1 = some own.2.wire → read.2 = own.2.named
  same : own.2.Same read.2 ↔ (own.2.IsInnerLeap → row.get? own.1 ≠ some own.2.wire)

namespace Row.ReadBack

variable {row : Row} {name : String} {value read : Value}

theorem of_kept (found : row.get? name = some value) (number : value.isNaN = false) :
    row.ReadBack (name, value) (name, value) where
  name := rfl
  kept _ := rfl
  wired same := (Value.named_of_wire_eq (Option.some.inj (same.symm.trans found))).symm
  same := by
    refine iff_of_true (Value.same_self number) fun inner wired => ?_
    exact Value.wire_ne_of_isInnerLeap inner (Option.some.inj (wired.symm.trans found))

theorem of_wired (found : row.get? name = some value.wire) (number : value.isNaN = false) :
    row.ReadBack (name, value) (name, value.named) where
  name := rfl
  kept same := Value.named_of_wire_eq (Option.some.inj (found.symm.trans same))
  wired _ := rfl
  same := by
    rw [Value.same_named_iff number]
    exact imp_congr_right fun _ => iff_of_false not_false (· found)

theorem of_absent (missing : row.get? name = none) (same : value.Same read) :
    row.ReadBack (name, value) (name, read) where
  name := rfl
  kept found := by cases missing.symm.trans found
  wired found := by cases missing.symm.trans found
  same := by
    refine iff_of_true same fun _ found => ?_
    cases missing.symm.trans found

end Row.ReadBack

theorem Field.BroughtBy.read {field : Field} {value : Value} {row : Row}
    (brought : field.BroughtBy value row) (admitted : field.type.admits value)
    (number : value.isNaN = false) :
    ∃ read, row.getOrDefault field.name field.type = .ok read ∧
      row.ReadBack (field.name, value) (field.name, read) := by
  cases found : row.get? field.name with
  | none =>
    have missing := Row.not_mem_columns found
    exact ⟨_, Row.getOrDefault_absent found, .of_absent found (brought.absent missing)⟩
  | some cell =>
    rcases ColumnType.admits_cases admitted with ⟨rfl, default⟩ | typed
    · have null : cell = .null := by
        rcases brought.present cell (Row.mem_of_get? found) with same | same <;> exact same
      rw [null] at found
      exact ⟨_, Row.getOrDefault_null found, default.symm ▸ .of_kept found number⟩
    · rcases brought.present cell (Row.mem_of_get? found) with rfl | rfl
      · have present : cell ≠ .null := by
          rintro rfl
          cases typed
        exact ⟨cell, Row.getOrDefault_present found present (Value.convert_own typed),
          .of_kept found number⟩
      · have present : value.wire ≠ .null := by
          intro null
          cases value <;> first | cases typed | cases null
        exact ⟨value.named, Row.getOrDefault_present found present (Value.convert_wire typed),
          .of_wired found number⟩

theorem Table.readFields_brought {row : Row} {fields : List Field}
    {cells : List (String × Value)}
    (held : List.Forall₂ (fun field cell => cell.1 = field.name ∧ field.type.admits cell.2) fields
      cells)
    (numbers : ∀ cell ∈ cells, cell.2.isNaN = false)
    (brought : List.Forall₂ (fun field cell => field.BroughtBy cell.2 row) fields cells) :
    ∃ read, readFields row fields = .ok read ∧ List.Forall₂ row.ReadBack cells read := by
  induction held with
  | nil => exact ⟨[], rfl, .nil⟩
  | @cons field cell fields cells own _ ih =>
    obtain ⟨first, rest⟩ := List.forall₂_cons.mp brought
    obtain ⟨number, numbers⟩ := List.forall_mem_cons.mp numbers
    obtain ⟨value, readFirst, backFirst⟩ := first.read own.2 number
    obtain ⟨others, readRest, back⟩ := ih numbers rest
    refine ⟨(field.name, value) :: others, ?_, .cons ?_ back⟩
    · rw [readFields, readFirst, readRest]
      rfl
    · rwa [← own.1] at backFirst ⊢

/-- Reading a row inverts writing an entity as a row, whichever of the two forms each value comes
in, in whatever order and among whatever else, and also where values that are defaults are left
out. What comes back another is a leap second within a minute that comes in its wire form, and only
that. -/
theorem Table.read_inverts {table : Table} {entity row : Row} (held : table.Holds entity)
    (numbers : ∀ cell ∈ entity.cells, cell.2.isNaN = false)
    (brought : List.Forall₂ (fun field cell => field.BroughtBy cell.2 row) table.fields
      entity.cells) :
    ∃ read, table.read row = .ok read ∧ List.Forall₂ row.ReadBack entity.cells read.cells := by
  obtain ⟨cells, done, back⟩ := readFields_brought held numbers brought
  refine ⟨⟨cells⟩, ?_, back⟩
  rw [Table.read, done]
  rfl

/-- A moment within a leap second, of a year that is written with a sign. -/
def DateTime.leaping : DateTime :=
  { epoch with
    year := -1, month := 6, day := 30, hour := 23, minute := 59, second := 59
    nanosecond := 1000000001
    year_bounds := by decide
    month_bounds := by decide
    day_bounds := by decide
    hour_lt := by decide
    minute_lt := by decide
    second_lt := by decide
    nanosecond_lt := by decide }

def Number.Decimal.minusZero : Number.Decimal :=
  { zero with negative := true, scale := 2, scale_le := by decide }

def Table.mixed : Table :=
  ⟨"mixed", "Mixed", [⟨"Flag", ⟨.bool, false⟩⟩, ⟨"Count", ⟨.int32, true⟩⟩,
    ⟨"Price", ⟨.decimal, false⟩⟩, ⟨"Code", ⟨.guid, false⟩⟩, ⟨"At", ⟨.datetime, false⟩⟩,
    ⟨"Note", ⟨.string, true⟩⟩, ⟨"Rate", ⟨.double, false⟩⟩]⟩

def Row.mixed : Row :=
  ⟨[("Flag", .bool true), ("Count", .int32 (-5)),
    ("Price", .decimal .minusZero), ("Code", .guid ⟨0xabcdef⟩), ("At", .datetime .leaping),
    ("Note", .null), ("Rate", .double 0)]⟩

def Row.wired : Row :=
  ⟨[("Other", .null), ("At", .string "-0001-06-30 23:59:60.000000001"), ("Price", .string "-0.00"),
    ("Code", .string "00000000-0000-0000-0000-000000abcdef"), ("Count", .int64 (-5)),
    ("Flag", .int64 1)]⟩

theorem Table.read_inverts_wired :
    Table.mixed.Holds .mixed ∧ ∃ read, Table.mixed.read .wired = .ok read ∧
      List.Forall₂ Row.wired.ReadBack Row.mixed.cells read.cells := by
  have held : Table.mixed.Holds .mixed := by
    simp [Table.Holds, Table.mixed, Row.mixed, ColumnType.admits, Value.fieldType?]
  have moment : DateTime.leaping.text = "-0001-06-30 23:59:60.000000001" := by decide +kernel
  have code : Guid.text ⟨0xabcdef⟩ = "00000000-0000-0000-0000-000000abcdef" := by decide +kernel
  have price : Number.Decimal.minusZero.text = "-0.00" := by decide +kernel
  refine ⟨held, read_inverts held ?_ ?_⟩
  · simp only [Row.mixed, List.forall_mem_cons, Value.isNaN]
    decide
  · simp only [Table.mixed, Row.mixed, List.forall₂_cons, List.Forall₂.nil, and_true]
    refine ⟨⟨?_, ?_⟩, ⟨?_, ?_⟩, ⟨?_, ?_⟩, ⟨?_, ?_⟩, ⟨?_, ?_⟩, ⟨?_, ?_⟩, ⟨?_, ?_⟩⟩ <;>
      simp [Row.wired, Row.columns, Value.wire, moment, price, ColumnType.default, Value.Same]
    · exact code.symm
    · decide

/-- Half of the leap second after second 30 is over. -/
def DateTime.innerLeap : DateTime :=
  { epoch with
    second := 30, nanosecond := 1500000000
    second_lt := by decide
    nanosecond_lt := by decide }

def Table.dated : Table :=
  ⟨"dated", "Dated", [⟨"At", ⟨.datetime, false⟩⟩]⟩

/-- A leap second within a minute is written as second 31, and the row of this text is no longer the
row of the entity. -/
theorem inner_leap_read_late :
    let entity : Row := ⟨[("At", .datetime .innerLeap)]⟩
    let row : Row := ⟨[("At", .string "1970-01-01 00:00:31.500")]⟩
    Table.dated.Holds entity ∧ (∀ cell ∈ entity.cells, cell.2.isNaN = false) ∧
      List.Forall₂ (fun field cell => field.BroughtBy cell.2 row) Table.dated.fields
        entity.cells ∧
      ∃ moment, Table.dated.read row = .ok ⟨[("At", .datetime moment)]⟩ ∧
        moment.fields = [1970, 1, 1, 0, 0, 31, 500000000] ∧
        ¬ (Value.datetime .innerLeap).Same (.datetime moment) := by
  have text : DateTime.innerLeap.text = "1970-01-01 00:00:31.500" := by decide +kernel
  intro entity row
  have found : row.get? "At" = some (Value.datetime .innerLeap).wire := congrArg some (by
    rw [Value.wire, text])
  have inner : DateTime.innerLeap.IsInnerLeap := by decide
  refine ⟨?_, ?_, ?_, DateTime.innerLeap.named, ?_, by decide, fun same => ?_⟩
  · simp [Table.Holds, Table.dated, entity, ColumnType.admits, Value.fieldType?]
  · simp [entity, Value.isNaN]
  · simp only [Table.dated, entity, List.forall₂_cons, List.Forall₂.nil, and_true]
    exact ⟨by simp [row, Value.wire, text], by simp [row, Row.columns]⟩
  · have typed : (Value.datetime .innerLeap).fieldType? = some FieldType.datetime := rfl
    have read : row.getOrDefault "At" ⟨.datetime, false⟩ = _ :=
      Row.getOrDefault_present found (by rintro ⟨⟩) (Value.convert_wire typed)
    rw [Table.read, Table.dated, Table.readFields, Table.readFields, read]
    rfl
  · exact (Value.same_named_iff rfl).mp same inner

end TypedSql
