import CallContract.Proofs.LayerRegistry
import CallContract.Proofs.NativeBehaviour

/-!
# The contracts that a call is held to

A call is held to the contracts of the scopes on the way from its receiver to
the definition that it finds, in the order of the lookup chain.  A new contract
on a scope of the way takes its place there, and one on any other scope, or for
another member, is not noticed.  The chain lists no scope twice, so neither are
contracts applied twice.
-/

namespace CallContract.ObjectSpace

variable {space after : ObjectSpace} {receiver : Value} {name member : Symbol}
  {scope : ScopeId} {way : List ScopeId} {signature : Signature}

/-- The contracts that surround the body of a call, nearest first. -/
def appliedContracts
    (space : ObjectSpace)
    (receiver : Value)
    (name : Symbol) : List (ScopeId × Signature) :=
  match space.resolve? receiver name with
  | none => []
  | some found => space.signaturesFor name found.interceptors

theorem appliedContracts_of_finds
    {found : Member} (hfinds : space.Finds receiver name way found) :
    space.appliedContracts receiver name = space.contractsOn name way := by
  unfold appliedContracts
  rw [resolve?_of_finds hfinds]
  rfl

theorem appliedContracts_of_found?_eq_none (hnone : space.found? receiver name = none) :
    space.appliedContracts receiver name = [] := by
  unfold appliedContracts
  rw [resolve?_eq_none_iff_found?.mpr hnone]

/-! ### Contracts on a way -/

theorem IsReachable.followsRegistrations (h : space.IsReachable) :
    space.FollowsRegistrations := by
  obtain ⟨settings, steps, index, start, hstart, hreaches⟩ := h
  have hfleet := (Fleet.followsRegistrations_ofSettings settings).after steps
  exact (hfleet index start hstart).2.reaches hreaches

/-- A layer lists a member exactly if the registry has its signature. -/
theorem FollowsRegistrations.intercepts_eq
    (h : space.FollowsRegistrations) (scope : ScopeId) (name : Symbol) :
    space.intercepts scope name = (space.signature? scope name).isSome := by
  rw [Bool.eq_iff_iff, intercepts_iff, h.layer, h.signature, List.mem_eraseDups,
    mem_registeredOn_iff, latest?_isSome_iff]

/-- The contract of a member on a scope, if there is one. -/
def contractAt? (space : ObjectSpace) (name : Symbol) (scope : ScopeId) :
    Option (ScopeId × Signature) :=
  (space.signature? scope name).map fun signature => (scope, signature)

theorem FollowsRegistrations.contractsOn_eq
    (h : space.FollowsRegistrations) (name : Symbol) (way : List ScopeId) :
    space.contractsOn name way = way.filterMap (space.contractAt? name) := by
  unfold contractsOn checkersOn signaturesFor
  rw [List.filterMap_filter]
  apply List.filterMap_congr
  intro scope hscope
  rw [h.intercepts_eq]
  unfold contractAt?
  cases space.signature? scope name <;> rfl

theorem scopes_of_contractsOn (space : ObjectSpace) (name : Symbol) (hway : way.Nodup) :
    (∀ contract ∈ space.contractsOn name way, contract.1 ∈ way) ∧
      ((space.contractsOn name way).map Prod.fst).Nodup := by
  have hsublist : ((space.contractsOn name way).map Prod.fst).Sublist way := by
    have hchecked : ∀ checkers : List ScopeId,
        ((space.signaturesFor name checkers).map Prod.fst).Sublist checkers := by
      intro checkers
      induction checkers with
      | nil => exact List.Sublist.slnil
      | cons checker rest ih =>
          unfold signaturesFor at ih ⊢
          cases hsignature : space.signature? checker name with
          | none =>
              simp only [List.filterMap_cons, hsignature, Option.map_none]
              exact ih.cons checker
          | some signature =>
              simp only [List.filterMap_cons, hsignature, Option.map_some, List.map_cons]
              exact ih.cons_cons checker
    exact (hchecked _).trans List.filter_sublist
  refine ⟨?_, hway.sublist hsublist⟩
  intro contract hcontract
  exact hsublist.subset (List.mem_map_of_mem hcontract)

theorem contractAt?_registerSignature (other : ScopeId) :
    (space.registerSignature scope member signature).contractAt? name other =
      if scope = other ∧ member = name then some (scope, signature)
      else space.contractAt? name other := by
  unfold contractAt?
  rw [signature?_registerSignature]
  split
  next hsame =>
    obtain ⟨rfl, -⟩ := hsame
    rfl
  next => rfl

theorem FollowsRegistrations.contractsOn_registerSignature_of_other
    (h : space.FollowsRegistrations) (hother : ¬ (member = name ∧ scope ∈ way)) :
    (space.registerSignature scope member signature).contractsOn name way =
      space.contractsOn name way := by
  rw [h.contractsOn_eq, h.registerSignature.contractsOn_eq]
  apply List.filterMap_congr
  intro other hway
  rw [contractAt?_registerSignature, if_neg]
  rintro ⟨rfl, hmember⟩
  exact hother ⟨hmember, hway⟩

/-! ### Objects and their classes -/

/-- An object was made from a class, as every object is that `newObject` makes. -/
def HasClass (space : ObjectSpace) (value : Value) : Prop :=
  ∀ reference, value = .object reference →
    space.scopes.kind? reference.ofClass = some .classScope

theorem hasClass_of_newObject
    {ofClass : ScopeId} {value : Value} (h : space.newObject ofClass = .ok (value, after)) :
    after.HasClass value := by
  obtain ⟨definition, hfind, hmade⟩ := bind_eq_ok_iff.mp h
  unfold ScopeTable.find at hfind
  split at hfind
  next found hget =>
    cases hfind
    split at hmade
    next hkind =>
      cases hmade
      rintro reference hreference
      cases hreference
      change space.scopes.kind? ofClass = _
      rw [ScopeTable.kind?, hget, Option.map_some, hkind]
    next => cases hmade
  next => cases hfind

/-- The class of a scope, too, is among what a change keeps. -/
theorem HasClass.change
    {value : Value} (h : space.HasClass value) (hchange : space.Change after) :
    after.HasClass value := by
  intro reference hreference
  have hclass := h reference hreference
  cases hchange with
  | scopes htable => exact htable.kind? hclass
  | defineMember =>
      rw [consumePending_scopes]
      exact hclass
  | _ => exact hclass

theorem HasClass.reaches
    {value : Value} (h : space.HasClass value) (hreaches : space.Reaches after) :
    after.HasClass value := by
  induction hreaches with
  | refl => exact h
  | tail _ hchange ih => exact ih.change hchange

theorem WellScoped.kind?_classOf
    (h : space.WellScoped) {value : Value} (hclass : space.HasClass value) :
    space.scopes.kind? (space.scopes.classOf value) = some .classScope := by
  have hbuiltin : ∀ id ∈ [ScopeId.nilClass, .trueClass, .falseClass, .integer, .float, .string,
      .symbol, .array, .hash, .classClass, .moduleClass],
      space.scopes.kind? id = some .classScope := by
    have hinitial : ∀ id ∈ [ScopeId.nilClass, .trueClass, .falseClass, .integer, .float, .string,
        .symbol, .array, .hash, .classClass, .moduleClass],
        ScopeTable.initial.kind? id = some .classScope := by decide
    exact fun id hid => h.builtin id _ (hinitial id hid)
  cases value with
  | object reference => exact hclass reference rfl
  | scope id =>
      rw [ScopeTable.classOf_scope]
      split
      next => exact hbuiltin _ (by simp)
      next => exact hbuiltin _ (by simp)
  | bool truth => cases truth <;> exact hbuiltin _ (by simp [ScopeTable.classOf])
  | _ => exact hbuiltin _ (by simp [ScopeTable.classOf])

theorem WellScoped.way_nodup
    (h : space.WellScoped) (hclass : space.HasClass receiver) {found : Member}
    (hfinds : space.Finds receiver name way found) : way.Nodup := by
  have hchain := ScopeTable.lookupChain_nodup h.formed (h.kind?_classOf hclass)
  obtain ⟨skipped, owner, rest, hsplit, rfl, -, -⟩ := hfinds
  rw [hsplit, List.append_cons] at hchain
  exact (List.nodup_append.mp hchain).1

/-! ### One registration -/

theorem finds_registerSignature {found : Member} :
    (space.registerSignature scope member signature).Finds receiver name way found ↔
      space.Finds receiver name way found :=
  Iff.rfl

theorem registerSignature_of_putsOn
    {operation : Operation} (hscope : space.scopes.Has scope) {stated : Signature}
    (hputs : space.PutsOn after operation stated)
    (hregisters : operation.registers space (.ok (.signature stated)) =
      [⟨scope, member, signature⟩]) :
    after = space.registerSignature scope member signature := by
  obtain ⟨_, _, _, hprovides, rfl, hregistered⟩ := hputs
  rw [hregistered] at hregisters
  cases hregisters
  cases hprovides with
  | asBefore => rfl
  | newSingleton => exact (Nat.lt_irrefl _ hscope).elim

/-- A contract on a scope of the way is found at the place of the scope, in the
place of one that was there. -/
theorem FollowsRegistrations.contractsOn_registerSignature
    (h : space.FollowsRegistrations) (member : Symbol) (signature : Signature)
    {near far : List ScopeId} (hnear : scope ∉ near) (hfar : scope ∉ far) :
    (space.registerSignature scope member signature).contractsOn member (near ++ scope :: far) =
        space.contractsOn member near ++ (scope, signature) :: space.contractsOn member far ∧
      space.contractsOn member (near ++ scope :: far) =
        space.contractsOn member near ++ (space.contractAt? member scope).toList ++
          space.contractsOn member far := by
  have hnearSame : (space.registerSignature scope member signature).contractsOn member near =
      space.contractsOn member near :=
    h.contractsOn_registerSignature_of_other fun hboth => hnear hboth.2
  have hfarSame : (space.registerSignature scope member signature).contractsOn member far =
      space.contractsOn member far :=
    h.contractsOn_registerSignature_of_other fun hboth => hfar hboth.2
  have hsplit : ∀ {state : ObjectSpace}, state.FollowsRegistrations →
      state.contractsOn member (near ++ scope :: far) =
        state.contractsOn member near ++ (state.contractAt? member scope).toList ++
          state.contractsOn member far := by
    intro state hstate
    rw [hstate.contractsOn_eq, hstate.contractsOn_eq, hstate.contractsOn_eq,
      List.filterMap_append, List.append_assoc, List.filterMap_cons]
    cases state.contractAt? member scope <;> rfl
  refine ⟨?_, hsplit h⟩
  have hself : (space.registerSignature scope member signature).contractAt? member scope =
      some (scope, signature) := by
    rw [contractAt?_registerSignature, if_pos ⟨rfl, rfl⟩]
  rw [hsplit h.registerSignature, hself, hnearSame, hfarSame, List.append_assoc]
  rfl

/-- A contract on a scope that is there changes what calls of a receiver are
held to only if it is for the member that is called and the scope lies on the
way to the definition of that member; then it is added at the place of the
scope, or has the signature of the scope exchanged.  Nothing beyond the
definition is ever applied, and nothing twice. -/
theorem contract_applies_only_on_the_way
    (hreachable : space.IsReachable) {operation : Operation}
    (hcontract : operation.PutsUnderContract) {response : Response}
    (hperform : space.perform operation = (.ok response, after))
    (hregisters : operation.registers space (.ok response) = [⟨scope, member, signature⟩])
    (hscope : space.scopes.Has scope) (hclass : space.HasClass receiver) :
    (∀ called, ¬ (called = member ∧ ∃ way found,
        space.Finds receiver member way found ∧ scope ∈ way) →
      after.appliedContracts receiver called = space.appliedContracts receiver called) ∧
    (∀ way found, space.Finds receiver member way found → scope ∈ way →
      ∃ near far, way = near ++ scope :: far ∧ scope ∉ near ∧ scope ∉ far ∧
        after.appliedContracts receiver member =
          space.contractsOn member near ++ (scope, signature) :: space.contractsOn member far ∧
        space.appliedContracts receiver member =
          space.contractsOn member near ++
            ((space.signature? scope member).map fun old => (scope, old)).toList ++
              space.contractsOn member far) ∧
    (∀ called way found, space.Finds receiver called way found →
      (∀ contract ∈ after.appliedContracts receiver called, contract.1 ∈ way) ∧
        ((after.appliedContracts receiver called).map Prod.fst).Nodup ∧
        (∀ contract ∈ space.appliedContracts receiver called, contract.1 ∈ way) ∧
        ((space.appliedContracts receiver called).map Prod.fst).Nodup) ∧
    ∀ called, space.found? receiver called = none →
      after.appliedContracts receiver called = [] := by
  have hwell := hreachable.wellScoped
  have hfollows := hreachable.followsRegistrations
  obtain ⟨stated, rfl, hputs⟩ := putsOn_of_perform hcontract hperform
  obtain rfl := registerSignature_of_putsOn hscope hputs hregisters
  refine ⟨?_, ?_, ?_, ?_⟩
  · intro called hother
    cases hfound : space.found? receiver called with
    | none =>
        rw [appliedContracts_of_found?_eq_none hfound]
        exact appliedContracts_of_found?_eq_none hfound
    | some found =>
        obtain ⟨way, hfinds⟩ := finds_of_found? hfound
        rw [appliedContracts_of_finds hfinds,
          appliedContracts_of_finds (finds_registerSignature.mpr hfinds)]
        apply hfollows.contractsOn_registerSignature_of_other
        rintro ⟨rfl, hway⟩
        exact hother ⟨rfl, way, found, hfinds, hway⟩
  · intro way found hfinds hway
    obtain ⟨near, far, rfl⟩ := List.append_of_mem hway
    have hnodup := hwell.way_nodup hclass hfinds
    have hapart := (List.nodup_cons.mp (List.nodup_middle.mp hnodup)).1
    have hnear : scope ∉ near := fun hmem => hapart (List.mem_append_left _ hmem)
    have hfar : scope ∉ far := fun hmem => hapart (List.mem_append_right _ hmem)
    obtain ⟨hafter, hbefore⟩ :=
      hfollows.contractsOn_registerSignature member signature hnear hfar
    refine ⟨near, far, rfl, hnear, hfar, ?_, ?_⟩
    · rw [appliedContracts_of_finds (finds_registerSignature.mpr hfinds), hafter]
    · rw [appliedContracts_of_finds hfinds, hbefore]
      rfl
  · intro called way found hfinds
    have hnodup := hwell.way_nodup hclass hfinds
    rw [appliedContracts_of_finds hfinds,
      appliedContracts_of_finds (finds_registerSignature.mpr hfinds)]
    obtain ⟨hmem, hscopes⟩ := space.scopes_of_contractsOn called hnodup
    obtain ⟨hmemAfter, hscopesAfter⟩ :=
      (space.registerSignature scope member signature).scopes_of_contractsOn called hnodup
    exact ⟨hmemAfter, hscopesAfter, hmem, hscopes⟩
  · intro called hnone
    exact appliedContracts_of_found?_eq_none hnone

theorem contract_applies_only_on_the_way_to_a_builtin_member :
    ∃ space after : ObjectSpace, ∃ response : Response,
      space.perform (.contract .object ⟨"nil?"⟩ (.spec (.list []) .any)) = (.ok response, after) ∧
        (.object, ⟨[], [], .anything⟩) ∈ after.appliedContracts .nil ⟨"nil?"⟩ := by
  let space := (ObjectSpace.initial ⟨0⟩ .standard []).withRegistry []
  let signature : Signature := ⟨[], [], .anything⟩
  have hreachable : space.IsReachable := ⟨[.standard], [], 0, space, rfl, .refl⟩
  have hcontract : (Operation.contract .object ⟨"nil?"⟩
      (.spec (.list []) .any)).PutsUnderContract := trivial
  have hmade : space.contract .object ⟨"nil?"⟩ (.spec (.list []) .any) =
      .ok (signature, space.registerSignature .object ⟨"nil?"⟩ signature) := rfl
  have hperform : space.perform (.contract .object ⟨"nil?"⟩ (.spec (.list []) .any)) =
      (.ok (.signature signature), space.registerSignature .object ⟨"nil?"⟩ signature) := by
    rw [perform_eq_inSteps]
    apply (Action.run_change _ _ _ space).trans
    rw [hmade]
  have hscope : space.scopes.Has .object := by
    change ScopeTable.initial.Has .object
    decide
  have hfound : (((ObjectSpace.initial ⟨0⟩ .standard []).withRegistry []).found? .nil
      ⟨"nil?"⟩).isSome = true := by decide +kernel
  obtain ⟨found, hfound⟩ := Option.isSome_iff_exists.mp hfound
  obtain ⟨way, hfinds⟩ := finds_of_found? hfound
  have hway : ScopeId.object ∈ way := by
    have hskipped : ∀ scope ∈ [ScopeId.nilClass, .object],
        (((ObjectSpace.initial ⟨0⟩ .standard []).withRegistry []).ownMember? scope
          ⟨"nil?"⟩).isNone = true := by decide +kernel
    have hnone : ∀ scope ∈ [ScopeId.nilClass, .object], space.ownMember? scope ⟨"nil?"⟩ = none :=
      fun scope hscope => Option.isNone_iff_eq_none.mp (hskipped scope hscope)
    obtain ⟨rest, rfl, hrest⟩ :=
      (findsAlong_cons_of_none (hnone .nilClass (by simp))).mp hfinds
    obtain ⟨others, rfl, -⟩ := (findsAlong_cons_of_none (hnone .object (by simp))).mp hrest
    exact List.mem_cons_of_mem _ List.mem_cons_self
  have hclass : space.HasClass .nil := by
    intro reference hreference
    cases hreference
  have hlocal := contract_applies_only_on_the_way hreachable hcontract hperform rfl hscope hclass
  obtain ⟨near, far, -, -, -, happlied, -⟩ := hlocal.2.1 way found hfinds hway
  refine ⟨space, _, _, hperform, ?_⟩
  rw [happlied]
  exact List.mem_append_right _ List.mem_cons_self

end CallContract.ObjectSpace
