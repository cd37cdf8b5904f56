import CallContract.Proofs.AncestorOrder
import CallContract.Proofs.AppliedContracts
import CallContract.Proofs.DeclarationOrder

/-!
# Objects do not see each other

Every object that is made has an identity of its own, under which its instance
variables and its singleton are kept.  Writing variables, making the singleton,
defining members on it, including modules into it and putting it under contract
touch no scope that another object looks at, whatever class the two have: other
objects look at their own singletons, and classes have no singletons among their
ancestors.
-/

namespace CallContract

/-- What can be done to a single object: on its variables, and on its singleton
once that is made. -/
inductive Operation.Concerns (space : ObjectSpace) (mine : ObjectRef) : Operation → Prop
  | writeVariable (name : String) (value : Value) :
      Concerns space mine (.writeVariable (.object mine) name value)
  | singleton : Concerns space mine (.singleton (.object mine))
  | contractOn (member : Symbol) (term : Term) :
      Concerns space mine (.contractOn (.object mine) member term)
  | defineMember {scope : ScopeId}
      (h : space.scopes.existingSingleton? (.object mine.id) = some scope)
      (name : Symbol) (visibility : Visibility) (parameters : Parameters) (body : Body) :
      Concerns space mine (.defineMember scope name visibility parameters body)
  | setVisibility {scope : ScopeId}
      (h : space.scopes.existingSingleton? (.object mine.id) = some scope)
      (name : Symbol) (visibility : Visibility) :
      Concerns space mine (.setVisibility scope name visibility)
  | includeModule {scope : ScopeId}
      (h : space.scopes.existingSingleton? (.object mine.id) = some scope)
      (included : ScopeId) :
      Concerns space mine (.includeModule scope included)

namespace ObjectSpace

/-- Operations of which each concerns an object when it is performed, also where
others before it have failed. -/
def AllConcern (space : ObjectSpace) (mine : ObjectRef) : List Operation → Prop
  | [] => True
  | operation :: rest =>
      operation.Concerns space mine ∧ (space.perform operation).2.AllConcern mine rest

/-- All that calls of an object, and questions about it, depend on is the same. -/
structure KeepsObject (space after : ObjectSpace) (other : ObjectRef) : Prop where
  singleton : after.scopes.existingSingleton? (.object other.id) =
    space.scopes.existingSingleton? (.object other.id)
  ancestors : after.scopes.ancestors other.ofClass = space.scopes.ancestors other.ofClass
  ownMember? : ∀ scope ∈ space.scopes.lookupChain (.object other), ∀ name,
    after.ownMember? scope name = space.ownMember? scope name
  layerOf : ∀ scope ∈ space.scopes.lookupChain (.object other),
    after.layerOf scope = space.layerOf scope
  signature? : ∀ scope ∈ space.scopes.lookupChain (.object other), ∀ name,
    after.signature? scope name = space.signature? scope name
  readVariable : ∀ name,
    after.readVariable (.object other) name = space.readVariable (.object other) name

variable {space middle after : ObjectSpace} {mine other : ObjectRef} {scope : ScopeId}
  {member : Symbol} {signature : Signature}

/-! ### What another object sees -/

theorem KeepsObject.refl (space : ObjectSpace) (other : ObjectRef) :
    space.KeepsObject space other :=
  ⟨rfl, rfl, fun _ _ _ => rfl, fun _ _ => rfl, fun _ _ _ => rfl, fun _ => rfl⟩

theorem KeepsObject.lookupChain (h : space.KeepsObject after other) :
    after.scopes.lookupChain (.object other) = space.scopes.lookupChain (.object other) := by
  unfold ScopeTable.lookupChain
  rw [ScopeTable.singletonsOf_object, ScopeTable.singletonsOf_object, h.singleton]
  exact congrArg _ h.ancestors

theorem KeepsObject.trans
    (hfirst : space.KeepsObject middle other) (hsecond : middle.KeepsObject after other) :
    space.KeepsObject after other where
  singleton := hsecond.singleton.trans hfirst.singleton
  ancestors := hsecond.ancestors.trans hfirst.ancestors
  ownMember? := by
    intro scope hscope name
    rw [hsecond.ownMember? scope (hfirst.lookupChain ▸ hscope), hfirst.ownMember? scope hscope]
  layerOf := by
    intro scope hscope
    rw [hsecond.layerOf scope (hfirst.lookupChain ▸ hscope), hfirst.layerOf scope hscope]
  signature? := by
    intro scope hscope name
    rw [hsecond.signature? scope (hfirst.lookupChain ▸ hscope), hfirst.signature? scope hscope]
  readVariable := fun name => (hsecond.readVariable name).trans (hfirst.readVariable name)

theorem KeepsObject.resolve? (h : space.KeepsObject after other) (name : Symbol) :
    after.resolve? (.object other) name = space.resolve? (.object other) name := by
  unfold ObjectSpace.resolve?
  rw [h.lookupChain]
  apply resolveAlong_congr
  · exact fun scope hscope => h.ownMember? scope hscope name
  · intro scope hscope
    unfold intercepts
    rw [h.layerOf scope hscope]

theorem KeepsObject.respondsTo (h : space.KeepsObject after other) (name : Symbol) :
    after.respondsTo (.object other) name = space.respondsTo (.object other) name := by
  unfold ObjectSpace.respondsTo
  rw [h.resolve?]

theorem Finds.mem_lookupChain
    {receiver : Value} {way : List ScopeId} {found : Member}
    (h : space.Finds receiver member way found) (hscope : scope ∈ way) :
    scope ∈ space.scopes.lookupChain receiver := by
  obtain ⟨skipped, owner, rest, hchain, rfl, -, -⟩ := h
  rw [hchain, List.append_cons]
  exact List.mem_append_left rest hscope

theorem KeepsObject.appliedContracts (h : space.KeepsObject after other) (name : Symbol) :
    after.appliedContracts (.object other) name =
      space.appliedContracts (.object other) name := by
  unfold ObjectSpace.appliedContracts
  rw [h.resolve?]
  cases hresolves : space.resolve? (.object other) name with
  | none => rfl
  | some resolution =>
      obtain ⟨way, hfinds, hcheckers⟩ := resolve?_eq_some_iff.mp hresolves
      apply List.filterMap_congr
      intro scope hscope
      rw [hcheckers] at hscope
      rw [h.signature? scope (hfinds.mem_lookupChain (List.mem_filter.mp hscope).1)]

theorem KeepsObject.isInstanceOf (h : space.KeepsObject after other) (scope : ScopeId) :
    after.scopes.isInstanceOf (.object other) scope =
      space.scopes.isInstanceOf (.object other) scope := by
  have hancestors : after.scopes.ancestors (after.scopes.classOf (.object other)) =
      space.scopes.ancestors (space.scopes.classOf (.object other)) := h.ancestors
  unfold ScopeTable.isInstanceOf ScopeTable.isSubtype
  rw [ScopeTable.singletonsOf_object, ScopeTable.singletonsOf_object, h.singleton, hancestors]
  rfl

/-! ### Single changes -/

theorem keepsObject_registerSignature
    (hscope : scope ∉ space.scopes.lookupChain (.object other)) :
    space.KeepsObject (space.registerSignature scope member signature) other where
  singleton := rfl
  ancestors := rfl
  ownMember? := fun _ _ _ => rfl
  layerOf := by
    intro listed hlisted
    rw [layerOf_registerSignature, if_neg]
    rintro ⟨rfl, -⟩
    exact hscope hlisted
  signature? := by
    intro listed hlisted name
    rw [signature?_registerSignature, if_neg]
    rintro ⟨rfl, -⟩
    exact hscope hlisted
  readVariable := fun _ => rfl

theorem keepsObject_putMember
    (hscope : scope ∉ space.scopes.lookupChain (.object other)) (name : Symbol) (made : Member) :
    space.KeepsObject { space with members := space.members.put ⟨scope, name⟩ made } other where
  singleton := rfl
  ancestors := rfl
  ownMember? := by
    intro listed hlisted called
    change Table.get? (space.members.put _ _) _ = _
    rw [Table.get?_put, if_neg]
    · rfl
    · rintro ⟨⟩
      exact hscope hlisted
  layerOf := fun _ _ => rfl
  signature? := fun _ _ _ => rfl
  readVariable := fun _ => rfl

theorem keepsObject_consumePending
    (hscope : scope ∉ space.scopes.lookupChain (.object other)) :
    space.KeepsObject (space.consumePending scope member) other := by
  unfold consumePending
  split
  next => exact .refl space other
  next annotated signature _ =>
    have herased :
        space.KeepsObject { space with pending := space.pending.erase annotated } other :=
      ⟨rfl, rfl, fun _ _ _ => rfl, fun _ _ => rfl, fun _ _ _ => rfl, fun _ => rfl⟩
    exact herased.trans (keepsObject_registerSignature hscope)

theorem keepsObject_defineMember
    (hscope : scope ∉ space.scopes.lookupChain (.object other))
    {visibility : Visibility} {parameters : Parameters} {body : Body}
    {definition : MemberDefinition}
    (h : space.defineMember scope member visibility parameters body = .ok (definition, after)) :
    space.KeepsObject after other := by
  obtain ⟨⟨⟩, -, hmade⟩ := bind_eq_ok_iff.mp h
  cases hmade
  have hinserted := keepsObject_putMember hscope member
    ⟨⟨member, scope, visibility, parameters⟩, body⟩
  exact hinserted.trans (keepsObject_consumePending hscope)

theorem keepsObject_setVisibility
    (hscope : scope ∉ space.scopes.lookupChain (.object other)) {visibility : Visibility}
    (h : space.setVisibility scope member visibility = .ok after) :
    space.KeepsObject after other := by
  unfold setVisibility at h
  split at h
  next => cases h
  next =>
    cases h
    exact keepsObject_putMember hscope member _

theorem keepsObject_writeVariable
    (hne : mine.id ≠ other.id) {name : String} {value : Value}
    (h : space.writeVariable (.object mine) name value = .ok after) :
    space.KeepsObject after other := by
  cases h
  refine ⟨rfl, rfl, fun _ _ _ => rfl, fun _ _ => rfl, fun _ _ _ => rfl, ?_⟩
  intro called
  change ((space.variableValues.put _ _).get? _).getD _ = _
  rw [Table.get?_put, if_neg]
  · rfl
  · intro hsame
    exact hne (Attachment.object.inj (VariableKey.mk.inj hsame).1)

theorem keepsObject_of_change
    {wrap : ε → Failure} {respond : α → Response}
    {change : ObjectSpace → Except ε (α × ObjectSpace)}
    (hchange : ∀ result after, change space = .ok (result, after) →
      space.KeepsObject after other) :
    space.KeepsObject ((Action.change wrap respond change).run space).2 other := by
  rw [Action.run_change]
  cases hresult : change space with
  | error error => exact .refl space other
  | ok result => exact hchange result.1 result.2 hresult

section Singleton

variable (hwell : space.WellScoped)
  (hclass : space.scopes.kind? other.ofClass = some .classScope)

include hwell hclass

theorem keepsObject_includeModule
    (hexisting : space.scopes.existingSingleton? (.object mine.id) = some scope)
    {included : ScopeId} (h : space.includeModule scope included = .ok after) :
    space.KeepsObject after other := by
  have hkind := ScopeTable.kind?_of_existingSingleton? hwell.formed hexisting
  obtain ⟨definition, hget, hsingleton⟩ := ScopeTable.get?_of_kind? hkind
  have hapart : other.ofClass ≠ scope := by
    rintro rfl
    rw [hclass] at hkind
    cases hkind
  obtain ⟨table, htable, hpair⟩ := bind_eq_ok_iff.mp h
  cases hpair
  rw [ScopeTable.includeModule_eq] at htable
  obtain ⟨moduleDefinition, -, hrest⟩ := bind_eq_ok_iff.mp htable
  split at hrest
  next =>
    obtain ⟨found, hfound, hmade⟩ := bind_eq_ok_iff.mp hrest
    rw [ScopeTable.get?_of_find hfound] at hget
    cases hget
    cases hmade
    exact ⟨rfl, ScopeTable.ancestors_including hwell.formed (ScopeTable.get?_of_find hfound)
      hsingleton included hapart, fun _ _ _ => rfl, fun _ _ => rfl, fun _ _ _ => rfl, fun _ => rfl⟩
  next => cases hrest

variable (hne : mine.id ≠ other.id)

include hne

theorem not_mem_lookupChain_of_existing
    (hexisting : space.scopes.existingSingleton? (.object mine.id) = some scope) :
    scope ∉ space.scopes.lookupChain (.object other) := by
  have hkind := ScopeTable.kind?_of_existingSingleton? hwell.formed hexisting
  apply ScopeTable.not_mem_lookupChain_of_singleton hwell.formed hclass hkind
  exact fun hsame => hne (Attachment.object.inj hsame)

theorem keepsObject_singletonScope
    (h : space.singletonScope (.object mine) = .ok (scope, after)) :
    space.KeepsObject after other ∧ scope ∉ after.scopes.lookupChain (.object other) := by
  obtain ⟨⟨made, table⟩, htable, hpair⟩ := bind_eq_ok_iff.mp h
  cases hpair
  have hchange := ScopeTable.Change.singletonOf htable
  have hexisting := ScopeTable.existingSingleton?_singletonOf htable
  refine ⟨?_, not_mem_lookupChain_of_existing (hwell.change (.scopes hchange))
    (hchange.kind? hclass) hne hexisting⟩
  rw [ScopeTable.singletonOf_eq] at htable
  split at htable
  next =>
    cases htable
    exact .refl space other
  next =>
    obtain ⟨name, -, hmade⟩ := bind_eq_ok_iff.mp htable
    cases hmade
    refine ⟨?_, ?_, fun _ _ _ => rfl, fun _ _ => rfl, fun _ _ _ => rfl, fun _ => rfl⟩
    · change (space.scopes.push name _ none []).2.existingSingleton? _ = _
      rw [ScopeTable.existingSingleton?_push, if_neg]
      intro hsame
      exact hne (Attachment.object.inj (ScopeKind.singleton.inj hsame))
    · exact ScopeTable.ancestors_push name _ hwell.formed (ScopeTable.has_of_kind? hclass)

theorem keepsObject_contractOn
    {term : Term} (h : space.contractOn (.object mine) member term = .ok (signature, after)) :
    space.KeepsObject after other := by
  obtain ⟨compiled, -, hrest⟩ := bind_eq_ok_iff.mp h
  obtain ⟨⟨singleton, middle⟩, hmade, hpair⟩ := bind_eq_ok_iff.mp hrest
  obtain ⟨hmiddle, hapart⟩ :=
    keepsObject_singletonScope hwell hclass hne (mapError_eq_ok_iff.mp hmade)
  cases hpair
  exact hmiddle.trans (keepsObject_registerSignature hapart)

/-- An operation that concerns one object keeps every other, also if it fails. -/
theorem keepsObject_of_concerns
    {operation : Operation} (hconcerns : operation.Concerns space mine) :
    space.KeepsObject (space.perform operation).2 other := by
  rw [perform_eq_inSteps]
  cases hconcerns with
  | writeVariable name value =>
      apply keepsObject_of_change
      intro result after hwritten
      obtain ⟨changed, hchanged, hpair⟩ := map_eq_ok_iff.mp hwritten
      cases hpair
      exact keepsObject_writeVariable hne hchanged
  | singleton =>
      apply keepsObject_of_change
      intro result after hmade
      exact (keepsObject_singletonScope hwell hclass hne hmade).1
  | contractOn member term =>
      apply keepsObject_of_change
      intro result after hcontracted
      exact keepsObject_contractOn hwell hclass hne hcontracted
  | defineMember hexisting name visibility parameters body =>
      apply keepsObject_of_change
      intro result after hdefined
      exact keepsObject_defineMember
        (not_mem_lookupChain_of_existing hwell hclass hne hexisting) hdefined
  | setVisibility hexisting name visibility =>
      apply keepsObject_of_change
      intro result after hset
      obtain ⟨changed, hchanged, hpair⟩ := map_eq_ok_iff.mp hset
      cases hpair
      exact keepsObject_setVisibility
        (not_mem_lookupChain_of_existing hwell hclass hne hexisting) hchanged
  | includeModule hexisting included =>
      apply keepsObject_of_change
      intro result after hincluded
      obtain ⟨changed, hchanged, hpair⟩ := map_eq_ok_iff.mp hincluded
      cases hpair
      exact keepsObject_includeModule hwell hclass hexisting hchanged

end Singleton

/-! ### Sequences of operations -/

theorem keepsObject_of_allConcern
    (hspace : space.IsReachable) (hclass : space.HasClass (.object other))
    (hne : mine.id ≠ other.id) {operations : List Operation}
    (hall : space.AllConcern mine operations) :
    space.KeepsObject (space.afterAll operations) other := by
  induction operations generalizing space with
  | nil => exact .refl space other
  | cons operation rest ih =>
      have hreaches := space.perform_reaches operation
      have hfirst := keepsObject_of_concerns hspace.wellScoped (hclass other rfl) hne hall.1
      exact hfirst.trans (ih (hspace.reaches hreaches) (hclass.reaches hreaches) hall.2)

/-! ### Identities -/

theorem Reaches.nextObject_le (h : space.Reaches after) :
    space.nextObject.number ≤ after.nextObject.number := by
  induction h with
  | refl => exact Nat.le_refl _
  | tail _ hchange ih =>
      apply ih.trans
      cases hchange with
      | newObject => exact Nat.le_succ _
      | defineMember =>
          unfold consumePending
          split <;> exact Nat.le_refl _
      | _ => exact Nat.le_refl _

theorem nextObject_of_newObject
    {ofClass : ScopeId} (h : space.newObject ofClass = .ok (.object mine, after)) :
    mine.id = space.nextObject ∧ after.nextObject.number = mine.id.number + 1 := by
  obtain ⟨definition, -, hmade⟩ := bind_eq_ok_iff.mp h
  split at hmade
  next =>
    cases hmade
    exact ⟨rfl, rfl⟩
  next => cases hmade

/-- Any two objects that were made have different identities, and whatever is done
to one of them later changes nothing that can be observed of the other. -/
theorem objects_are_isolated
    {start made before both : ObjectSpace} {firstClass secondClass : ScopeId}
    {first second : ObjectRef} (hstart : start.IsReachable)
    (hfirst : start.newObject firstClass = .ok (.object first, made))
    (hbefore : made.Reaches before)
    (hsecond : before.newObject secondClass = .ok (.object second, both)) :
    first.id ≠ second.id ∧
      ∀ space, both.Reaches space → ∀ mine other,
        (mine = first ∧ other = second ∨ mine = second ∧ other = first) →
          ∀ operations, space.AllConcern mine operations →
            (∀ name, (space.afterAll operations).readVariable (.object other) name =
              space.readVariable (.object other) name) ∧
            (∀ member, (space.afterAll operations).resolve? (.object other) member =
                space.resolve? (.object other) member ∧
              (space.afterAll operations).appliedContracts (.object other) member =
                space.appliedContracts (.object other) member ∧
              (space.afterAll operations).respondsTo (.object other) member =
                space.respondsTo (.object other) member) ∧
            ∀ scope, (space.afterAll operations).scopes.isInstanceOf (.object other) scope =
              space.scopes.isInstanceOf (.object other) scope := by
  have hmade := reaches_of_newObject hfirst
  have hboth := reaches_of_newObject hsecond
  obtain ⟨hfirstId, hnext⟩ := nextObject_of_newObject hfirst
  obtain ⟨hsecondId, -⟩ := nextObject_of_newObject hsecond
  have hne : first.id ≠ second.id := by
    intro hsame
    have hgrown := hbefore.nextObject_le
    rw [hnext, hsame, hsecondId] at hgrown
    exact Nat.not_succ_le_self _ hgrown
  refine ⟨hne, ?_⟩
  intro space hspace mine other hpair operations hall
  have hreached : start.Reaches space := ((hmade.trans hbefore).trans hboth).trans hspace
  have hfirstClass : space.HasClass (.object first) :=
    (hasClass_of_newObject hfirst).reaches ((hbefore.trans hboth).trans hspace)
  have hsecondClass : space.HasClass (.object second) :=
    (hasClass_of_newObject hsecond).reaches hspace
  have hkeeps : space.KeepsObject (space.afterAll operations) other := by
    rcases hpair with ⟨rfl, rfl⟩ | ⟨rfl, rfl⟩
    · exact keepsObject_of_allConcern (hstart.reaches hreached) hsecondClass hne hall
    · exact keepsObject_of_allConcern (hstart.reaches hreached) hfirstClass (Ne.symm hne) hall
  exact ⟨hkeeps.readVariable,
    fun member => ⟨hkeeps.resolve? member, hkeeps.appliedContracts member,
      hkeeps.respondsTo member⟩,
    hkeeps.isInstanceOf⟩

theorem objects_are_isolated_within_one_class :
    ∃ (both : ObjectSpace) (first second : ObjectRef) (operations : List Operation),
      first.ofClass = second.ofClass ∧ first.id ≠ second.id ∧
        both.AllConcern first operations ∧
        (both.afterAll operations).respondsTo (.object first) ⟨"to_s"⟩ = false ∧
        (both.afterAll operations).respondsTo (.object second) ⟨"to_s"⟩ =
          both.respondsTo (.object second) ⟨"to_s"⟩ := by
  let start := (ObjectSpace.initial ⟨0⟩ .standard []).withRegistry []
  have hstart : start.IsReachable := ⟨[.standard], [], 0, start, rfl, .refl⟩
  let made : ObjectSpace := { start with nextObject := ⟨2⟩ }
  let both : ObjectSpace := { made with nextObject := ⟨3⟩ }
  have hfirst : start.newObject .object = .ok (.object ⟨⟨1⟩, .object⟩, made) := rfl
  have hsecond : made.newObject .object = .ok (.object ⟨⟨2⟩, .object⟩, both) := rfl
  let operations : List Operation :=
    [.writeVariable (.object ⟨⟨1⟩, .object⟩) "level" (.int 1), .singleton (.object ⟨⟨1⟩, .object⟩),
      .defineMember ⟨17⟩ ⟨"to_s"⟩ .privateAccess .none (.reader "level"),
      .contractOn (.object ⟨⟨1⟩, .object⟩) ⟨"nil?"⟩ (.spec (.list []) .any)]
  have hall : both.AllConcern ⟨⟨1⟩, .object⟩ operations := by
    refine ⟨.writeVariable _ _, .singleton, .defineMember ?_ _ _ _ _, .contractOn _ _, trivial⟩
    decide +kernel
  have hhidden : (both.afterAll operations).respondsTo (.object ⟨⟨1⟩, .object⟩) ⟨"to_s"⟩ =
      false := by decide +kernel
  have hisolated := objects_are_isolated hstart hfirst .refl hsecond
  have hkept := hisolated.2 both .refl _ _ (.inl ⟨rfl, rfl⟩) operations hall
  exact ⟨both, ⟨⟨1⟩, .object⟩, ⟨⟨2⟩, .object⟩, operations, rfl, hisolated.1, hall, hhidden,
    (hkept.2.1 ⟨"to_s"⟩).2.2⟩

end ObjectSpace

end CallContract
