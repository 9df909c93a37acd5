import Mathlib.Data.List.Basic
import TypedSql.Join.Projection

namespace TypedSql.Projection

structure Claim where
  property : String
  qualifier : Alias
  column : String
  type : FieldType

namespace Claim

def suits (claim : Claim) (target : FieldType) : Bool :=
  claim.type == target || claim.type.canCast target

def source (claim : Claim) (target : FieldType) : Source :=
  ⟨claim.qualifier, claim.column, claim.type, if claim.type = target then none else some target⟩

end Claim

/-- Makes a claim. One that fails leaves the projection as it was. -/
def attempt (projection : Projection) (claim : Claim) : Except Error Bool × Projection :=
  match projection.claim claim.property claim.qualifier claim.column claim.type with
  | .ok (won, next) => (.ok won, next)
  | .error error => (.error error, projection)

def attemptAll (projection : Projection) (claims : List Claim) : Projection :=
  claims.foldl (fun projection claim => (projection.attempt claim).2) projection

def place? (projection : Projection) (property : String) : Option Nat :=
  projection.bindings.findIdx? (·.property == property)

/-- What comes of a claim. -/
inductive Decides (projection : Projection) (claim : Claim) :
    Except Error Bool × Projection → Prop where
  | won {place : Nat} {binding : Binding} (first : projection.place? claim.property = some place)
      (there : projection.bindings[place]? = some binding) (free : binding.source = none)
      (suits : claim.suits binding.target = true) :
      Decides projection claim (.ok true, ⟨projection.bindings.set place
        { binding with source := some (claim.source binding.target) }⟩)
  | unknown (absent : projection.place? claim.property = none) :
      Decides projection claim (.ok false, projection)
  | occupied {place : Nat} {binding : Binding} {source : Source}
      (first : projection.place? claim.property = some place)
      (there : projection.bindings[place]? = some binding) (taken : binding.source = some source) :
      Decides projection claim (.ok false, projection)
  | illegal {place : Nat} {binding : Binding}
      (first : projection.place? claim.property = some place)
      (there : projection.bindings[place]? = some binding) (free : binding.source = none)
      (unsuited : claim.suits binding.target = false) :
      Decides projection claim
        (.error (.illegalCast claim.property claim.type binding.target), projection)

section

variable {property column : String} {qualifier : Alias} {type : FieldType} {bindings : List Binding}

theorem claimIn_of_none (absent : bindings.findIdx? (·.property == property) = none) :
    claimIn property qualifier column type bindings = .ok none := by
  induction bindings with
  | nil => rfl
  | cons first rest ih =>
    rw [List.findIdx?_cons] at absent
    split at absent
    · cases absent
    · rename_i other
      have different : first.property ≠ property := by simpa using other
      rw [claimIn, if_neg different, ih (by simpa using absent)]
      rfl

theorem claimIn_of_some {place : Nat} {binding : Binding}
    (first : bindings.findIdx? (·.property == property) = some place)
    (there : bindings[place]? = some binding) :
    claimIn property qualifier column type bindings =
      if binding.isOccupied then .ok none
      else (binding.claim qualifier column type).map fun bound =>
        some (bindings.set place bound) := by
  induction bindings generalizing place with
  | nil => cases first
  | cons head rest ih =>
    rw [List.findIdx?_cons] at first
    split at first
    · rename_i own
      cases first
      cases there
      have same : binding.property = property := by simpa using own
      rw [claimIn, if_pos same]
      rfl
    · rename_i other
      have different : head.property ≠ property := by simpa using other
      obtain ⟨later, found, rfl⟩ := Option.map_eq_some_iff.mp first
      rw [claimIn, if_neg different, ih found (by simpa using there)]
      split
      · rfl
      · cases binding.claim qualifier column type <;> rfl

end

theorem Binding.isOccupied_eq_false_iff {binding : Binding} :
    binding.isOccupied = false ↔ binding.source = none := by
  simp [isOccupied]

variable {projection : Projection} {claim : Claim}

theorem Claim.claim_of_suits {binding : Binding} (suits : claim.suits binding.target = true) :
    binding.claim claim.qualifier claim.column claim.type =
      .ok { binding with source := some (claim.source binding.target) } := by
  unfold Binding.claim Claim.source
  by_cases same : claim.type = binding.target
  · simp [same]
  · have legal : claim.type.canCast binding.target = true := by
      simpa [Claim.suits, same] using suits
    simp [same, legal]

theorem Claim.claim_of_unsuited {binding : Binding}
    (unsuited : claim.suits binding.target = false) :
    binding.claim claim.qualifier claim.column claim.type =
      .error (.illegalCast binding.property claim.type binding.target) := by
  unfold Binding.claim
  have both : claim.type ≠ binding.target ∧ claim.type.canCast binding.target = false := by
    simpa [Claim.suits] using unsuited
  simp [both.1, both.2]

theorem exists_of_place? {property : String} {place : Nat}
    (first : projection.place? property = some place) :
    ∃ binding, projection.bindings[place]? = some binding ∧ binding.property = property := by
  obtain ⟨inRange, own, _⟩ := List.findIdx?_eq_some_iff_getElem.mp first
  exact ⟨_, List.getElem?_eq_getElem inRange, by simpa using own⟩

theorem Decides.attempt_eq {result : Except Error Bool × Projection}
    (decides : projection.Decides claim result) : projection.attempt claim = result := by
  cases decides with
  | won first there free suits =>
    have free := Binding.isOccupied_eq_false_iff.mpr free
    simp only [attempt, Projection.claim, claimIn_of_some first there, free,
      Claim.claim_of_suits suits]
    rfl
  | unknown absent =>
    simp only [attempt, Projection.claim, claimIn_of_none absent]
    rfl
  | @occupied place binding source first there taken =>
    have taken : binding.isOccupied = true := by simp [Binding.isOccupied, taken]
    simp only [attempt, Projection.claim, claimIn_of_some first there, taken]
    rfl
  | @illegal place binding first there free unsuited =>
    have free := Binding.isOccupied_eq_false_iff.mpr free
    obtain ⟨other, same, own⟩ := exists_of_place? first
    have own : binding.property = claim.property := by
      rw [Option.some.inj (there.symm.trans same), own]
    simp only [attempt, Projection.claim, claimIn_of_some first there, free,
      Claim.claim_of_unsuited unsuited, own]
    rfl

theorem exists_decides (projection : Projection) (claim : Claim) :
    ∃ result, projection.Decides claim result := by
  cases first : projection.place? claim.property with
  | none => exact ⟨_, .unknown first⟩
  | some place =>
    obtain ⟨binding, there, _⟩ := exists_of_place? first
    cases free : binding.source with
    | some source => exact ⟨_, .occupied first there free⟩
    | none =>
      cases suits : claim.suits binding.target with
      | true => exact ⟨_, .won first there free suits⟩
      | false => exact ⟨_, .illegal first there free suits⟩

/-- Only the first binding of a property can be won, if it is free and the types suit. A claim that
does not win changes nothing. -/
theorem attempt_eq_iff {result : Except Error Bool × Projection} :
    projection.attempt claim = result ↔ projection.Decides claim result := by
  constructor
  · rintro rfl
    obtain ⟨result, decides⟩ := exists_decides projection claim
    rw [decides.attempt_eq]
    exact decides
  · exact Decides.attempt_eq

def outline (projection : Projection) : List (String × FieldType) :=
  projection.bindings.map fun binding => (binding.property, binding.target)

theorem place?_eq (projection : Projection) (property : String) :
    projection.place? property = projection.outline.findIdx? (·.1 == property) := by
  rw [outline, List.findIdx?_map]
  rfl

theorem outline_attempt (projection : Projection) (claim : Claim) :
    (projection.attempt claim).2.outline = projection.outline := by
  obtain ⟨result, decides⟩ := exists_decides projection claim
  rw [decides.attempt_eq]
  cases decides with
  | @won place binding first there free suits =>
    have same : projection.outline[place]? = some (binding.property, binding.target) := by
      simp [outline, there]
    obtain ⟨inRange, same⟩ := List.getElem?_eq_some_iff.mp same
    have kept := List.set_getElem_self inRange
    rw [same] at kept
    rw [outline, List.map_set]
    exact kept
  | unknown | occupied | illegal => rfl

theorem place?_attempt (projection : Projection) (claim : Claim) (property : String) :
    (projection.attempt claim).2.place? property = projection.place? property := by
  rw [place?_eq, place?_eq, outline_attempt]

theorem outline_attemptAll (projection : Projection) (claims : List Claim) :
    (projection.attemptAll claims).outline = projection.outline := by
  induction claims generalizing projection with
  | nil => rfl
  | cons claim rest ih => exact (ih _).trans (projection.outline_attempt claim)

/-- The claims that win the binding at a place, in turn. -/
def wonBy (projection : Projection) (place : Nat) : List Claim → List Claim
  | [] => []
  | claim :: rest =>
    match projection.attempt claim with
    | (.ok true, next) =>
      if projection.place? claim.property = some place then claim :: next.wonBy place rest
      else next.wonBy place rest
    | (_, next) => next.wonBy place rest

def Claim.isFor (claim : Claim) (binding : Binding) : Bool :=
  claim.property == binding.property && claim.suits binding.target

/-- Whether a binding can be won: it is free, and no earlier one has its property. -/
def isOpen (projection : Projection) (place : Nat) (binding : Binding) : Bool :=
  projection.place? binding.property == some place && !binding.isOccupied

section

variable {place : Nat} {binding : Binding} (there : projection.bindings[place]? = some binding)

include there

theorem property_of_place? {property : String} (first : projection.place? property = some place) :
    binding.property = property := by
  obtain ⟨other, same, own⟩ := exists_of_place? first
  rw [Option.some.inj (there.symm.trans same), own]

theorem attempt_of_isFor (isOpen : projection.isOpen place binding = true)
    (isFor : claim.isFor binding = true) :
    projection.place? claim.property = some place ∧
      projection.attempt claim = (.ok true, ⟨projection.bindings.set place
        { binding with source := some (claim.source binding.target) }⟩) := by
  simp only [Projection.isOpen, Claim.isFor, Bool.and_eq_true, beq_iff_eq, Bool.not_eq_true',
    Binding.isOccupied_eq_false_iff] at isOpen isFor
  have first : projection.place? claim.property = some place := isFor.1 ▸ isOpen.1
  exact ⟨first, attempt_eq_iff.mpr (.won first there isOpen.2 isFor.2)⟩

theorem attempt_of_not_isFor
    (other : (projection.isOpen place binding && claim.isFor binding) = false) :
    (projection.attempt claim).2.bindings[place]? = some binding ∧
      ((projection.attempt claim).1 = .ok true →
        projection.place? claim.property ≠ some place) := by
  obtain ⟨result, decides⟩ := exists_decides projection claim
  rw [decides.attempt_eq]
  cases decides with
  | @won won winner first found free suits =>
    have elsewhere : won ≠ place := by
      rintro rfl
      cases there.symm.trans found
      have named := property_of_place? there first
      simp [Projection.isOpen, Claim.isFor, named, first, suits, Binding.isOccupied, free] at other
    refine ⟨by rw [List.getElem?_set_ne elsewhere, there], fun _ => ?_⟩
    rw [first]
    simpa using elsewhere
  | unknown | occupied | illegal => exact ⟨there, by simp⟩

end

def winner? (projection : Projection) (place : Nat) (binding : Binding) (claims : List Claim) :
    Option Claim :=
  if projection.isOpen place binding then claims.find? (·.isFor binding) else none

def Binding.fed (binding : Binding) : Option Claim → Binding
  | some claim => { binding with source := some (claim.source binding.target) }
  | none => binding

@[simp]
theorem isOpen_attempt (projection : Projection) (claim : Claim) (place : Nat) (binding : Binding) :
    (projection.attempt claim).2.isOpen place binding = projection.isOpen place binding := by
  rw [isOpen, isOpen, place?_attempt]

theorem wonBy_cons_of_lost {place : Nat} (rest : List Claim)
    (lost : (projection.attempt claim).1 = .ok true →
      projection.place? claim.property ≠ some place) :
    projection.wonBy place (claim :: rest) = (projection.attempt claim).2.wonBy place rest := by
  rw [wonBy]
  split
  · rename_i next made
    rw [made] at lost
    rw [if_neg (lost rfl), made]
  · rename_i made
    rw [made]

/-- Of all claims at most one wins a binding: the first that is for it. No other one changes it. -/
theorem attemptAll_fed {place : Nat} {binding : Binding}
    (there : projection.bindings[place]? = some binding) (claims : List Claim) :
    projection.wonBy place claims = (projection.winner? place binding claims).toList ∧
      (projection.attemptAll claims).bindings[place]? =
        some (binding.fed (projection.winner? place binding claims)) := by
  induction claims generalizing projection binding with
  | nil =>
    have none : projection.winner? place binding [] = none := by simp [winner?]
    rw [none]
    exact ⟨rfl, there⟩
  | cons claim rest ih =>
    cases wins : projection.isOpen place binding && claim.isFor binding with
    | true =>
      obtain ⟨isOpen, isFor⟩ := Bool.and_eq_true_iff.mp wins
      obtain ⟨first, made⟩ := attempt_of_isFor there isOpen isFor
      have inRange := (List.getElem?_eq_some_iff.mp there).1
      have won : projection.winner? place binding (claim :: rest) = some claim := by
        simp [winner?, isOpen, isFor]
      -- The binding is occupied from here on, so that nothing wins it any more.
      have fed : (projection.attempt claim).2.bindings[place]? =
          some (binding.fed (some claim)) := by
        rw [made]
        exact List.getElem?_set_self inRange
      have closed : (projection.attempt claim).2.winner? place (binding.fed (some claim)) rest =
          none := by
        simp [winner?, Projection.isOpen, Binding.fed, Binding.isOccupied]
      obtain ⟨later, kept⟩ := ih fed
      rw [closed] at later kept
      rw [won]
      refine ⟨?_, kept⟩
      rw [made] at later
      simp only [wonBy, made, first, if_true, later]
      rfl
    | false =>
      obtain ⟨kept, lost⟩ := attempt_of_not_isFor there wins
      obtain ⟨won, fed⟩ := ih kept
      have same : (projection.attempt claim).2.winner? place binding rest =
          projection.winner? place binding (claim :: rest) := by
        simp only [winner?, isOpen_attempt]
        split
        · rename_i isOpen
          have other : claim.isFor binding = false := by simpa [isOpen] using wins
          rw [List.find?_cons, other]
        · rfl
      rw [same] at won fed
      exact ⟨(wonBy_cons_of_lost rest lost).trans won, fed⟩

theorem attemptAll_occupied {place : Nat} {binding : Binding}
    (there : projection.bindings[place]? = some binding) (taken : binding.isOccupied = true)
    (claims : List Claim) : (projection.attemptAll claims).bindings[place]? = some binding := by
  have closed : projection.winner? place binding claims = none := by
    simp [winner?, isOpen, taken]
  have fed := (attemptAll_fed there claims).2
  rw [closed] at fed
  exact fed

end TypedSql.Projection
