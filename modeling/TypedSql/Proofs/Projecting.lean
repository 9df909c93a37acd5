import TypedSql.Proofs.Join.Projecting

namespace TypedSql

namespace Projection

theorem ofTable_binding {output : Table} {place : Nat} {binding : Binding}
    (there : (ofTable output).bindings[place]? = some binding) :
    binding.source = none ∧ ((ofTable output).isOpen place binding = true ↔
      (ofTable output).place? binding.property = some place) := by
  obtain ⟨field, _, rfl⟩ : ∃ field : Field, output.fields[place]? = some field ∧
      (⟨field.name, field.type.field, none⟩ : Binding) = binding := by
    simpa [ofTable] using there
  exact ⟨rfl, by simp [isOpen, Binding.isOccupied]⟩

/-- What a binding holds in the end: the column of the one claim that won it, or what was found for
it. -/
inductive Binding.Holds (binding : Binding) (won : List Claim) (tables : List (Alias × Table)) :
    Prop
  | claimed {claim : Claim} (only : won = [claim])
      (source : binding.source = some (claim.source binding.target))
  | found (unclaimed : won = [])
      (finds : Finds tables binding.property binding.target binding.source)

theorem Binding.autoBind_holds {binding : Binding} (free : binding.source = none)
    (winner : Option Claim) (tables : List (Alias × Table)) :
    ((binding.fed winner).autoBind tables).Holds winner.toList tables := by
  cases winner with
  | some claim =>
    have taken : (binding.fed (some claim)).isOccupied = true := rfl
    rw [autoBind_of_occupied taken]
    exact .claimed rfl rfl
  | none =>
    rw [fed, autoBind_of_free (isOccupied_eq_false_iff.mpr free)]
    exact .found rfl (binding.match?_finds tables)

theorem Binding.outline_fed (binding : Binding) (winner : Option Claim)
    (tables : List (Alias × Table)) :
    ((binding.fed winner).autoBind tables).property = binding.property ∧
      ((binding.fed winner).autoBind tables).target = binding.target := by
  unfold autoBind
  cases winner <;> split <;> exact ⟨rfl, rfl⟩

theorem getElem?_autoBind {projection : Projection} {place : Nat} {binding : Binding}
    (there : projection.bindings[place]? = some binding) (aliases : Aliases) :
    (projection.autoBind aliases).bindings[place]? = some (binding.autoBind aliases.toList) := by
  simp [autoBind, there]

theorem exists_unbound {projection : Projection} {claims : List Claim} {aliases : Aliases}
    {place : Nat} {binding : Binding}
    (there : ((projection.attemptAll claims).autoBind aliases).bindings[place]? = some binding) :
    ∃ unbound, projection.bindings[place]? = some unbound := by
  have length : ((projection.attemptAll claims).autoBind aliases).bindings.length =
      projection.bindings.length := by
    have same := outline_autoBind (projection.attemptAll claims) aliases
    rw [outline_attemptAll] at same
    simpa [outline] using congrArg List.length same
  have inRange := (List.getElem?_eq_some_iff.mp there).1
  rw [length] at inRange
  exact ⟨_, List.getElem?_eq_getElem inRange⟩

/-- A binding holds the column of the first claim that is for it, if it is the first of its
property and there is such a claim. -/
theorem bound_holds {output : Table} {claims : List Claim} {aliases : Aliases} {place : Nat}
    {binding : Binding}
    (there : (((ofTable output).attemptAll claims).autoBind aliases).bindings[place]? =
      some binding) :
    binding.Holds ((ofTable output).wonBy place claims) aliases.toList ∧
      (ofTable output).wonBy place claims =
        if (ofTable output).place? binding.property = some place then
          (claims.find? (·.isFor binding)).toList
        else [] := by
  obtain ⟨unbound, begun⟩ := exists_unbound there
  obtain ⟨free, isOpen⟩ := ofTable_binding begun
  obtain ⟨won, fed⟩ := attemptAll_fed begun claims
  have last := getElem?_autoBind fed aliases
  rw [Option.some.inj (there.symm.trans last), won]
  obtain ⟨property, target⟩ :=
    unbound.outline_fed ((ofTable output).winner? place unbound claims) aliases.toList
  refine ⟨Binding.autoBind_holds free _ _, ?_⟩
  simp only [property, target, Claim.isFor]
  unfold winner?
  simp only [isOpen]
  split <;> rfl

end Projection

open Projection

/-- The first claim of a property that suits its type wins it, and every other one changes nothing.
What is still free then takes the first column of its name and type, once and for all. Joins are
projected in this way: their casts are claims. -/
theorem first_claim_wins (output : Table) :
    (∀ (projection : Projection) (claim : Claim) (result : Except Error Bool × Projection),
      projection.attempt claim = result ↔ projection.Decides claim result) ∧
    (∀ (claims : List Claim) (aliases : Aliases) (place : Nat) (binding : Binding),
      (((ofTable output).attemptAll claims).autoBind aliases).bindings[place]? = some binding →
        binding.Holds ((ofTable output).wonBy place claims) aliases.toList ∧
        (ofTable output).wonBy place claims =
          if (ofTable output).place? binding.property = some place then
            (claims.find? (·.isFor binding)).toList
          else []) ∧
    (ofTable output).outline =
      output.fields.map (fun field => (field.name, field.type.field)) ∧
    (∀ (projection : Projection) (claims : List Claim) (aliases : Aliases),
      (projection.attemptAll claims).outline = projection.outline ∧
      (projection.autoBind aliases).outline = projection.outline ∧
      (projection.autoBind aliases).autoBind aliases = projection.autoBind aliases ∧
      ∀ (place : Nat) (binding : Binding), projection.bindings[place]? = some binding →
        binding.isOccupied = true →
        (projection.attemptAll claims).bindings[place]? = some binding ∧
          (projection.autoBind aliases).bindings[place]? = some binding) ∧
    ∀ (script : List Join.Instruction) (join : Join), Join.build output script = .ok join →
      ∃ claims, claims.map Join.castOf = Join.casts script ∧
        join.projection = ((ofTable output).attemptAll claims).autoBind join.aliases := by
  refine ⟨fun _ _ _ => attempt_eq_iff, fun _ _ _ _ => bound_holds, ?_, ?_,
    fun _ _ => Join.build_claims⟩
  · simp [outline, ofTable]
  · intro projection claims aliases
    refine ⟨outline_attemptAll projection claims, outline_autoBind projection aliases,
      autoBind_autoBind projection aliases, ?_⟩
    intro place binding there taken
    refine ⟨attemptAll_occupied there taken claims, ?_⟩
    rw [getElem?_autoBind there, Binding.autoBind_of_occupied taken]

def Table.twice : Table :=
  ⟨"shop.report", "Report", [⟨"Name", ⟨.string, false⟩⟩, ⟨"Name", ⟨.string, false⟩⟩,
    ⟨"Id", ⟨.int32, false⟩⟩]⟩

def Aliases.customers : Aliases :=
  ⟨[⟨"shop.customer", "Customer", [⟨"Id", ⟨.int32, false⟩⟩, ⟨"Name", ⟨.string, false⟩⟩]⟩],
    by simp, by decide⟩

/-- A claim with an illegal cast, one that wins, and one that comes too late. -/
def Projection.Claim.mixed : List Claim :=
  [⟨"Id", ⟨0⟩, "Since", .datetime⟩, ⟨"Name", ⟨0⟩, "Id", .int32⟩, ⟨"Name", ⟨0⟩, "Name", .string⟩]

theorem first_claim_wins_twice :
    let projection := ((ofTable .twice).attemptAll Claim.mixed).autoBind .customers
    projection.bindings.map Binding.source =
        [some ⟨⟨0⟩, "Id", .int32, some .string⟩, some ⟨⟨0⟩, "Name", .string, none⟩,
          some ⟨⟨0⟩, "Id", .int32, none⟩] ∧
      (ofTable .twice).wonBy 0 Claim.mixed = [⟨"Name", ⟨0⟩, "Id", .int32⟩] ∧
      ∃ binding, projection.bindings[0]? = some binding ∧
        binding.Holds [⟨"Name", ⟨0⟩, "Id", .int32⟩] Aliases.customers.toList := by
  intro projection
  obtain ⟨_, bound, _⟩ := first_claim_wins .twice
  refine ⟨by decide, rfl, _, rfl, ?_⟩
  exact (bound Claim.mixed .customers 0 _ rfl).1

end TypedSql
