import TypedSql.Toml.Document
import TypedSql.Dialect

namespace TypedSql

/-- Where a database is and how long to wait for it, in milliseconds. -/
structure ConnectionSettings where
  url : String
  timeout : Option Nat
  deriving DecidableEq, Repr

def ConnectionSettings.default : ConnectionSettings :=
  ⟨"", none⟩

structure Settings where
  dialect : Dialect
  connection : ConnectionSettings
  deriving DecidableEq, Repr

inductive SettingsError where
  | malformed
  | unknownDialect (error : UnknownDialect)

namespace ConnectionSettings

open Toml (Value)

def urlOf : Option Value → Option String
  | none => some default.url
  | some (.string url) => some url
  | some _ => none

def timeoutOf : Option Value → Option (Option Nat)
  | none => some default.timeout
  | some (.integer number) =>
    if 0 ≤ number ∧ number < 0x10000000000000000 then some (some number.toNat) else none
  | some _ => none

/-- The settings in a value: under their names in a table, or by their places in an array. A moment
holds none of them. -/
def ofValue? : Option Value → Option ConnectionSettings
  | none | some .moment => some default
  | some (.table _ entries) => do
    return ⟨← urlOf (entries.lookup "url"), ← timeoutOf (entries.lookup "timeout_ms")⟩
  | some (.array items) => do return ⟨← urlOf items[0]?, ← timeoutOf items[1]?⟩
  | some _ => none

end ConnectionSettings

namespace Settings

def dialectOf : Option Toml.Value → Except SettingsError Dialect
  | none => .ok .default
  | some (.string spelling) => (Dialect.parse spelling).mapError .unknownDialect
  | some _ => .error .malformed

/-- Reads settings. What they do not name is ignored, but the whole document has to be sound before
its dialect is looked at. -/
def parse (text : String) : Except SettingsError Settings :=
  match Toml.parse? text with
  | none => .error .malformed
  | some entries =>
    match ConnectionSettings.ofValue? (entries.lookup "connection") with
    | none => .error .malformed
    | some connection =>
      (dialectOf (entries.lookup "dialect")).map fun dialect => ⟨dialect, connection⟩

end Settings

end TypedSql
