import TypedSql.Proofs.Binding
import TypedSql.Proofs.Join.Introduction

namespace TypedSql

open Sql (introductions links)

/-- A join that was built is well scoped: its aliases count its tables, every pair links the next
table to an earlier one, and filters, order and properties are about tables that have an alias by
then. What is written of it therefore brings in every alias that it uses once, and before the
section `ON` that uses it. -/
theorem joins_scoped {output : Table} {script : List Join.Instruction} {join : Join}
    (built : Join.build output script = .ok join) :
    join.aliases.tables.length = join.pairs.length + 1 ∧
    join.aliases.toList.map (fun entry => entry.1.code.toNat) =
      List.range (join.pairs.length + 1) ∧
    (join.aliases.toList.map Prod.snd).Nodup ∧
    (∀ place pair, join.pairs[place]? = some pair →
      Join.PairIn script join.aliases place pair) ∧
    (∀ entry ∈ join.order, join.aliases.Registered entry.1) ∧
    (∀ binding ∈ join.projection.bindings, ∀ source, binding.source = some source →
      join.aliases.Registered source.qualifier) ∧
    ∀ dialect statement, join.render dialect = .ok statement → ∃ sql,
      join.sql dialect = .ok sql ∧ statement.sql = sql.render dialect .lower ∧
      introductions sql = join.aliases.toList.map (fun entry => (entry.2.name, entry.1.text)) ∧
      (∀ qualifier name, .column qualifier name ∈ sql → ∃ known, qualifier = some known ∧
        ((introductions sql).map Prod.snd).count known.text = 1) ∧
      ∀ before after, sql = before ++ .keyword .ON :: after →
        ∀ qualifier name, .column (some qualifier) name ∈ links after →
          qualifier.text ∈ (introductions before).map Prod.snd := by
  obtain ⟨sound, paired⟩ := Join.build_scoped built
  have count : join.aliases.tables.length = join.pairs.length + 1 := by
    have counted := sound.count
    rwa [if_neg (by simpa using paired)] at counted
  refine ⟨count, ?_, ?_, sound.pairs, sound.order, sound.sources, ?_⟩
  · rw [Aliases.map_code_toList, count]
  · rw [Aliases.map_table_toList]
    exact join.aliases.nodup
  · intro dialect statement rendered
    obtain ⟨sql, written, last⟩ := Except.bind_ok.mp rendered
    cases last
    have brought := sound.introductions_sql paired written
    refine ⟨sql, written, rfl, brought, ?_, ?_⟩
    · intro qualifier name member
      obtain ⟨known, same, table, listed⟩ := sound.columns_aliased written member
      refine ⟨known, same, ?_⟩
      have texts : (introductions sql).map Prod.snd =
          join.aliases.toList.map fun entry => entry.1.text := by
        rw [brought, List.map_map]
        rfl
      rw [texts]
      refine List.count_eq_one_of_mem join.aliases.nodup_texts ?_
      exact List.mem_map.mpr ⟨(known, table), listed, rfl⟩
    · intro before after split qualifier name member
      exact sound.links_introduced written split member

/-- Two pairs with a filter, a cast and an order. -/
def Join.agedScript : List Join.Instruction :=
  [.add .inner (.aged "a") (.aged "b"), .on "Age" "Age", .or "Id" "Age",
    .filter (.neitherOlderNorNameless (.aged "b")), .castRight "Age" "Id" .int32, .next,
    .add .left (.aged "a") (.aged "c"), .on "Age" "Age", .orderBy (.aged "c") "Age" .ascending]

theorem joins_scoped_aged :
    ∃ join sql, Join.build (.aged "d") Join.agedScript = .ok join ∧ join.pairs.length = 2 ∧
      join.aliases.tables.length = 3 ∧ join.sql .mySql = .ok sql ∧
      introductions sql = [("a", "a"), ("b", "b"), ("c", "c")] := by
  have built : ∃ join sql, Join.build (.aged "d") Join.agedScript = .ok join ∧
      join.pairs.length = 2 ∧ join.sql .mySql = .ok sql ∧
      introductions sql = [("a", "a"), ("b", "b"), ("c", "c")] := ⟨_, _, rfl, rfl, rfl, rfl⟩
  obtain ⟨join, sql, built, pairs, written, brought⟩ := built
  have count := (joins_scoped built).1
  exact ⟨join, sql, built, pairs, by rw [count, pairs], written, brought⟩

end TypedSql
