import CallContract.Proofs.Locality

/-!
# Layers and the registry

The layers and the registry are two stores that only make sense together: a
member that is listed but has no signature would be passed over in silence.
Both follow from the registrations of an object space.  A layer lists the
members of its scope in the order of their first registration, and the
registry holds the signatures of the most recent ones.
-/

namespace CallContract

namespace ObjectSpace

/-- The members that were put under contract on a scope, in order. -/
def registeredOn (space : ObjectSpace) (scope : ScopeId) : List Symbol :=
  (space.registrations.filter fun made => made.scope = scope).map (·.member)

/-- The most recent contract of a member of a scope. -/
def latest? (space : ObjectSpace) (scope : ScopeId) (member : Symbol) : Option Signature :=
  ((space.registrations.filter fun made =>
    made.scope = scope ∧ made.member = member).getLast?).map (·.signature)

structure FollowsRegistrations (space : ObjectSpace) : Prop where
  layer : ∀ scope, space.layerOf scope = (space.registeredOn scope).eraseDups
  nodup : ∀ scope, (space.layerOf scope).Nodup
  signature : ∀ scope member, space.signature? scope member = space.latest? scope member

variable {space after : ObjectSpace} {scope other : ScopeId} {member name : Symbol}
  {signature : Signature}

/-! ### One registration -/

theorem mem_registeredOn_iff :
    member ∈ space.registeredOn scope ↔
      ∃ signature, ⟨scope, member, signature⟩ ∈ space.registrations := by
  unfold registeredOn
  simp only [List.mem_map, List.mem_filter, decide_eq_true_eq]
  constructor
  · rintro ⟨⟨_, _, signature⟩, ⟨hmade, rfl⟩, rfl⟩
    exact ⟨signature, hmade⟩
  · rintro ⟨signature, hmade⟩
    exact ⟨⟨scope, member, signature⟩, ⟨hmade, rfl⟩, rfl⟩

theorem latest?_isSome_iff :
    (space.latest? scope member).isSome ↔
      ∃ signature, ⟨scope, member, signature⟩ ∈ space.registrations := by
  unfold latest?
  rw [Option.isSome_map, List.getLast?_isSome]
  constructor
  · intro hsome
    obtain ⟨⟨_, _, signature⟩, hmade⟩ := List.exists_mem_of_ne_nil _ hsome
    simp only [List.mem_filter, decide_eq_true_eq] at hmade
    obtain ⟨hmade, rfl, rfl⟩ := hmade
    exact ⟨signature, hmade⟩
  · rintro ⟨signature, hmade⟩
    exact List.ne_nil_of_mem (List.mem_filter.mpr ⟨hmade, by simp⟩)

theorem registeredOn_registerSignature :
    (space.registerSignature scope member signature).registeredOn other =
      if scope = other then space.registeredOn other ++ [member] else space.registeredOn other := by
  by_cases h : scope = other <;> simp [registerSignature, registeredOn, h]

theorem latest?_registerSignature :
    (space.registerSignature scope member signature).latest? other name =
      if scope = other ∧ member = name then some signature else space.latest? other name := by
  by_cases h : scope = other ∧ member = name <;> simp [registerSignature, latest?, h]

theorem signature?_registerSignature :
    (space.registerSignature scope member signature).signature? other name =
      if scope = other ∧ member = name then some signature
      else space.signature? other name := by
  change Table.get? (space.registry.put ⟨space.id, scope, member⟩ signature)
    ⟨space.id, other, name⟩ = _
  rw [Table.get?_put]
  simp only [ContractKey.mk.injEq, true_and]
  rfl

theorem intercepts_iff : space.intercepts scope member = true ↔ member ∈ space.layerOf scope := by
  simp [intercepts]

theorem layerOf_registerSignature :
    (space.registerSignature scope member signature).layerOf other =
      if scope = other ∧ member ∉ space.layerOf scope then space.layerOf other ++ [member]
      else space.layerOf other := by
  change (Table.get? (space.layersListing scope member) other).getD [] = _
  unfold layersListing
  by_cases hlisted : member ∈ space.layerOf scope
  · rw [if_pos (intercepts_iff.mpr hlisted), if_neg (by simp [hlisted])]
    rfl
  · rw [if_neg (by simpa only [intercepts_iff] using hlisted), Table.get?_put]
    by_cases h : scope = other
    · subst h
      simp [hlisted]
    · simp only [h, false_and, if_false]
      rfl

theorem eraseDups_concat (members : List Symbol) (member : Symbol) :
    (members ++ [member]).eraseDups =
      if member ∈ members then members.eraseDups else members.eraseDups ++ [member] := by
  rw [List.eraseDups_append]
  by_cases h : member ∈ members <;> simp [List.removeAll, List.eraseDups_cons, h]

theorem FollowsRegistrations.registerSignature
    (h : space.FollowsRegistrations) :
    (space.registerSignature scope member signature).FollowsRegistrations where
  layer := by
    intro other
    rw [layerOf_registerSignature, registeredOn_registerSignature]
    by_cases hscope : scope = other
    · subst hscope
      rw [if_pos rfl, eraseDups_concat, h.layer]
      simp only [List.mem_eraseDups, true_and, ite_not]
    · rw [if_neg (fun hboth => hscope hboth.1), if_neg hscope]
      exact h.layer other
  nodup := by
    intro other
    rw [layerOf_registerSignature]
    split
    next hnew =>
      obtain ⟨rfl, hunlisted⟩ := hnew
      rw [List.nodup_append]
      refine ⟨h.nodup scope, List.pairwise_singleton _ member, ?_⟩
      intro listed hlisted added hadded heq
      rw [List.mem_singleton.mp hadded] at heq
      exact hunlisted (heq ▸ hlisted)
    next => exact h.nodup other
  signature := by
    intro other name
    rw [signature?_registerSignature, latest?_registerSignature, h.signature]

theorem layers_grow_registerSignature :
    space.layerOf other <+: (space.registerSignature scope member signature).layerOf other := by
  rw [layerOf_registerSignature]
  split
  next => exact List.prefix_append _ _
  next => exact List.prefix_refl _

/-! ### Every sequence of changes -/

theorem SameContracts.layerOf (h : space.SameContracts after) :
    after.layerOf scope = space.layerOf scope := by
  unfold ObjectSpace.layerOf
  rw [h.layers]

theorem FollowsRegistrations.of_sameContracts
    (hfollows : space.FollowsRegistrations) (h : space.SameContracts after) :
    after.FollowsRegistrations where
  layer := by
    intro scope
    rw [h.layerOf, hfollows.layer scope]
    unfold registeredOn
    rw [h.registrations]
  nodup := by
    intro scope
    rw [h.layerOf]
    exact hfollows.nodup scope
  signature := by
    intro scope member
    have hsignature := hfollows.signature scope member
    unfold signature? latest? at hsignature ⊢
    rw [h.registry, h.id, h.registrations]
    exact hsignature

theorem FollowsRegistrations.reaches
    (hfollows : space.FollowsRegistrations) (h : space.Reaches after) :
    after.FollowsRegistrations := by
  induction h with
  | refl => exact hfollows
  | tail hbefore hchange ih =>
      rcases hchange.contracts with hsame | ⟨before, scope, member, signature, hsame, rfl⟩
      · exact ih.of_sameContracts hsame
      · exact (ih.of_sameContracts hsame).registerSignature

/-- No member is ever unlisted. -/
theorem Reaches.layers_grow (h : space.Reaches after) (scope : ScopeId) :
    space.layerOf scope <+: after.layerOf scope := by
  induction h with
  | refl => exact List.prefix_refl _
  | tail hbefore hchange ih =>
      rcases hchange.contracts with hsame | ⟨before, registered, member, signature, hsame, rfl⟩
      · rw [hsame.layerOf]
        exact ih
      · apply ih.trans
        rw [← hsame.layerOf]
        exact layers_grow_registerSignature

theorem FollowsRegistrations.withRegistry
    {registry : Registry} (hfollows : space.FollowsRegistrations)
    (hsame : registry.ownedBy space.id = space.registry.ownedBy space.id) :
    (space.withRegistry registry).FollowsRegistrations where
  layer := hfollows.layer
  nodup := hfollows.nodup
  signature := by
    intro scope member
    calc
      (space.withRegistry registry).signature? scope member =
          (registry.ownedBy space.id).signature? ⟨space.id, scope, member⟩ :=
        (Registry.signature?_ownedBy registry rfl).symm
      _ = space.signature? scope member := by
        rw [hsame]
        exact Registry.signature?_ownedBy space.registry rfl
      _ = (space.withRegistry registry).latest? scope member := hfollows.signature scope member

theorem initial_followsRegistrations (id : SpaceId) (settings : Settings) :
    (initial id settings []).FollowsRegistrations := by
  obtain ⟨members, hinitial⟩ := initial_eq id settings []
  rw [hinitial]
  exact ⟨fun _ => rfl, fun _ => List.nodup_nil, fun _ _ => rfl⟩

end ObjectSpace

/-! ### Fleets -/

namespace Fleet

/-- The spaces of a fleet are told apart by their identities, and both stores
of each follow its registrations. -/
def FollowsRegistrations (fleet : Fleet) : Prop :=
  ∀ index space, fleet.space? index = some space →
    space.id = ⟨index⟩ ∧ space.FollowsRegistrations

theorem followsRegistrations_ofSettings (settings : List Settings) :
    (ofSettings settings).FollowsRegistrations := by
  intro index space hspace
  obtain ⟨own, rfl⟩ := space?_ofSettings hspace
  refine ⟨?_, ObjectSpace.initial_followsRegistrations ⟨index⟩ own⟩
  obtain ⟨members, hinitial⟩ := ObjectSpace.initial_eq ⟨index⟩ own []
  rw [hinitial]

theorem FollowsRegistrations.perform
    {fleet : Fleet} (h : fleet.FollowsRegistrations) (target : Nat) (operation : Operation) :
    (fleet.perform target operation).2.FollowsRegistrations := by
  cases htarget : fleet.space? target with
  | none =>
      rw [perform_of_no_space operation htarget]
      exact h
  | some acting =>
      obtain ⟨hid, hfollows⟩ := h target acting htarget
      have hreaches := acting.perform_reaches operation
      intro index space hspace
      rw [space?_perform operation htarget] at hspace
      split at hspace
      next heq =>
        subst heq
        cases hspace
        exact ⟨hreaches.fixed.1.trans hid, hfollows.reaches hreaches⟩
      next hother =>
        obtain ⟨before, hbefore, rfl⟩ := Option.map_eq_some_iff.mp hspace
        obtain ⟨hbeforeId, hbeforeFollows⟩ := h index before hbefore
        refine ⟨hbeforeId, hbeforeFollows.withRegistry ?_⟩
        have hforeign : acting.id ≠ before.id := by
          rw [hid, hbeforeId]
          intro hsame
          exact hother (SpaceId.mk.inj hsame)
        rw [hreaches.ownedBy_of_others hforeign, registry_of_space? htarget,
          registry_of_space? hbefore]

theorem FollowsRegistrations.after
    {fleet : Fleet} (h : fleet.FollowsRegistrations) (steps : List (Nat × Operation)) :
    (fleet.after steps).FollowsRegistrations := by
  induction steps generalizing fleet with
  | nil => exact h
  | cons step rest ih => exact ih (h.perform step.1 step.2)

theorem layers_grow_perform
    {fleet : Fleet} {index : Nat} {space : ObjectSpace} (h : fleet.space? index = some space)
    (target : Nat) (operation : Operation) :
    ∃ after, (fleet.perform target operation).2.space? index = some after ∧
      ∀ scope, space.layerOf scope <+: after.layerOf scope := by
  cases htarget : fleet.space? target with
  | none =>
      rw [perform_of_no_space operation htarget]
      exact ⟨space, h, fun _ => List.prefix_refl _⟩
  | some acting =>
      rw [space?_perform operation htarget]
      by_cases heq : target = index
      · subst heq
        obtain rfl := Option.some.inj (htarget.symm.trans h)
        rw [if_pos rfl]
        exact ⟨_, rfl, (acting.perform_reaches operation).layers_grow⟩
      · rw [if_neg heq, h]
        exact ⟨_, rfl, fun _ => List.prefix_refl _⟩

theorem layers_grow_after
    {fleet : Fleet} {index : Nat} {space : ObjectSpace} (h : fleet.space? index = some space)
    (steps : List (Nat × Operation)) :
    ∃ after, (fleet.after steps).space? index = some after ∧
      ∀ scope, space.layerOf scope <+: after.layerOf scope := by
  induction steps generalizing fleet space with
  | nil => exact ⟨space, h, fun _ => List.prefix_refl _⟩
  | cons step rest ih =>
      obtain ⟨middle, hmiddle, hfirst⟩ := layers_grow_perform h step.1 step.2
      obtain ⟨after, hafter, hrest⟩ := ih hmiddle
      exact ⟨after, hafter, fun scope => (hfirst scope).trans (hrest scope)⟩

/-- At every moment in every space of a fleet, also within calls, a layer lists
exactly the members that have a signature, which are those that were put under
contract: once each, in the order of their first registration, with the most
recent signature, and for good. -/
theorem layers_match_registry
    (settings : List Settings) (steps : List (Nat × Operation))
    {index : Nat} {space during : ObjectSpace}
    (hspace : ((ofSettings settings).after steps).space? index = some space)
    (hduring : space.Reaches during) :
    (∀ scope member,
      (member ∈ during.layerOf scope ↔ (during.signature? scope member).isSome) ∧
      ((during.signature? scope member).isSome ↔
        ∃ signature, ⟨scope, member, signature⟩ ∈ during.registrations) ∧
      during.signature? scope member = during.latest? scope member) ∧
    (∀ scope, (during.layerOf scope).Nodup ∧
      during.layerOf scope = (during.registeredOn scope).eraseDups) ∧
    (∀ after, during.Reaches after → ∀ scope,
      during.layerOf scope <+: after.layerOf scope) ∧
    (∀ later, ∃ after,
      (((ofSettings settings).after steps).after later).space? index = some after ∧
        ∀ scope, space.layerOf scope <+: after.layerOf scope) ∧
    (∀ operation : Operation, operation.IsSingle →
      (during.perform operation).2.registrations =
        during.registrations ++ operation.registers during (during.perform operation).1) ∧
    (∀ kind onSelf scope names behavior response after,
      during.perform (.typedAccessors kind onSelf scope names behavior) = (.ok response, after) →
        ∃ owner, during.CarriesAccessors onSelf scope owner ∧
          (kind ≠ .writer → ∃ signature, ObjectSpace.readerSignature behavior = .ok signature ∧
            ∀ name ∈ names, during.Gains after ⟨owner, ⟨name⟩, signature⟩) ∧
          (kind ≠ .reader → ∃ signature, ObjectSpace.writerSignature behavior = .ok signature ∧
            ∀ name ∈ names, during.Gains after ⟨owner, Symbol.setter ⟨name⟩, signature⟩)) := by
  have hfleet := (followsRegistrations_ofSettings settings).after steps
  have hfollows := (hfleet index space hspace).2.reaches hduring
  refine ⟨?_, ?_, ?_, ?_, ?_, ?_⟩
  · intro scope member
    have hlatest : (during.signature? scope member).isSome ↔
        ∃ signature, ⟨scope, member, signature⟩ ∈ during.registrations := by
      rw [hfollows.signature]
      exact ObjectSpace.latest?_isSome_iff
    refine ⟨?_, hlatest, hfollows.signature scope member⟩
    rw [hfollows.layer scope, List.mem_eraseDups, ObjectSpace.mem_registeredOn_iff, hlatest]
  · exact fun scope => ⟨hfollows.nodup scope, hfollows.layer scope⟩
  · exact fun after hafter => hafter.layers_grow
  · exact layers_grow_after hspace
  · exact fun operation hsingle => during.perform_registrations hsingle
  · intro kind onSelf scope names behavior response after haccessors
    exact ObjectSpace.typedAccessors_gains haccessors

theorem layers_match_registry_after_one_contract :
    ∃ space, ((ofSettings [.standard]).after
        [(0, .register .object ⟨"run"⟩ (.spec (.list []) .any))]).space? 0 = some space ∧
      ⟨"run"⟩ ∈ space.layerOf .object := by
  let initial := (ObjectSpace.initial ⟨0⟩ .standard []).withRegistry []
  have hinitial : (ofSettings [.standard]).space? 0 = some initial := rfl
  have hspace : ((ofSettings [.standard]).after
      [(0, .register .object ⟨"run"⟩ (.spec (.list []) .any))]).space? 0 =
        some (initial.perform (.register .object ⟨"run"⟩ (.spec (.list []) .any))).2 := by
    change (Fleet.perform _ _ _).2.space? 0 = _
    rw [space?_perform _ hinitial, if_pos rfl]
  have hmatch := (layers_match_registry _ _ hspace .refl).1 .object ⟨"run"⟩
  exact ⟨_, hspace, hmatch.1.mpr rfl⟩

end Fleet

end CallContract
