import CallContract.ObjectSpace.Dispatch
import CallContract.Notation.Reading

/-!
# Fleets

A fleet is a number of object spaces that share a registry; an operation acts
on one of them.
-/

namespace CallContract

def ObjectSpace.withRegistry (space : ObjectSpace) (registry : Registry) : ObjectSpace :=
  { space with registry := registry }

/-- Object spaces that share a registry. -/
structure Fleet where
  registry : Registry
  spaces : List ObjectSpace

namespace Fleet

/-- An object space for each of the settings. -/
def ofSettings (settings : List Settings) : Fleet :=
  ⟨[], settings.mapIdx fun number settings => .initial ⟨number⟩ settings []⟩

/-- A number of object spaces with the same settings. -/
def initial (settings : Settings) (count : Nat) : Fleet :=
  .ofSettings (List.replicate count settings)

/-- A space of the fleet as it is at present, with the shared registry. -/
def space? (fleet : Fleet) (index : Nat) : Option ObjectSpace :=
  (fleet.spaces[index]?).map (·.withRegistry fleet.registry)

/-- Puts a space in its place and shares its registry. -/
def setSpace (fleet : Fleet) (index : Nat) (space : ObjectSpace) : Fleet :=
  ⟨space.registry, fleet.spaces.set index space⟩

def perform
    (fleet : Fleet)
    (index : Nat)
    (operation : Operation) : Option (Except Failure Response) × Fleet :=
  match fleet.space? index with
  | none => (none, fleet)
  | some space =>
      let (outcome, space) := space.perform operation
      (some outcome, fleet.setSpace index space)

/-- The fleet after operations on its spaces, in order. -/
def after (fleet : Fleet) (steps : List (Nat × Operation)) : Fleet :=
  steps.foldl (fun fleet step => (fleet.perform step.1 step.2).2) fleet

/-- The outcomes of those operations that act on one of the spaces. -/
def outcomesOf (index : Nat) (fleet : Fleet) :
    List (Nat × Operation) → List (Option (Except Failure Response))
  | [] => []
  | (target, operation) :: rest =>
      let (outcome, fleet) := fleet.perform target operation
      if target = index then outcome :: outcomesOf index fleet rest
      else outcomesOf index fleet rest

/-! ### The spaces of a fleet -/

theorem space?_ofSettings {settings : List Settings} {index : Nat} {space : ObjectSpace}
    (h : (ofSettings settings).space? index = some space) :
    ∃ own, space = .initial ⟨index⟩ own [] := by
  unfold space? ofSettings at h
  rw [List.getElem?_mapIdx] at h
  cases hsettings : settings[index]? with
  | none => simp [hsettings] at h
  | some own =>
      obtain ⟨members, hinitial⟩ := ObjectSpace.initial_eq ⟨index⟩ own []
      rw [hsettings, Option.map_some, Option.map_some, hinitial] at h
      refine ⟨own, ?_⟩
      rw [hinitial]
      exact (Option.some.inj h).symm

/-- After an operation on one space, the others have the registry that it left. -/
theorem space?_perform
    {fleet : Fleet} {target : Nat} {space : ObjectSpace} (operation : Operation)
    (h : fleet.space? target = some space) (index : Nat) :
    (fleet.perform target operation).2.space? index =
      if target = index then some (space.perform operation).2
      else (fleet.space? index).map (·.withRegistry (space.perform operation).2.registry) := by
  have hbound : target < fleet.spaces.length := by
    obtain ⟨own, hown, -⟩ := Option.map_eq_some_iff.mp h
    exact (List.getElem?_eq_some_iff.mp hown).1
  unfold perform
  rw [h]
  simp only [space?, setSpace, List.getElem?_set]
  by_cases htarget : target = index
  · subst htarget
    simp only [if_true, if_pos hbound, Option.map_some]
    rfl
  · rw [if_neg htarget, if_neg htarget, Option.map_map]
    rfl

theorem registry_of_space?
    {fleet : Fleet} {index : Nat} {space : ObjectSpace} (h : fleet.space? index = some space) :
    space.registry = fleet.registry := by
  obtain ⟨own, -, rfl⟩ := Option.map_eq_some_iff.mp h
  rfl

theorem perform_of_no_space
    {fleet : Fleet} {target : Nat} (operation : Operation)
    (h : fleet.space? target = none) :
    fleet.perform target operation = (none, fleet) := by
  unfold perform
  rw [h]

end Fleet

namespace ObjectSpace

/-- Reads a contract in notation with the names of the scopes of a space. -/
def parseSpec
    (space : ObjectSpace)
    (engine : Pattern.Engine)
    (source : String) : Except Notation.Error Term :=
  Notation.parseSpec engine space.scopes.named? source

def parseValue (space : ObjectSpace) (source : String) : Except Notation.Error Value :=
  Notation.parseValue space.scopes.named? source

end ObjectSpace

end CallContract
