import CallContract.Proofs.AccessorMembers
import CallContract.Proofs.ExecutionOutcome

/-!
# What executions make of members and contracts

The definition that a member has on a scope changes only when the member is defined
there anew or its visibility is changed; accessors are taken only where there is no
definition.  Contracts are put in force by operations only, and never taken back.
So after any number of steps, however deeply calls are nested in them, definitions
and signatures are what the operations that were performed made of them, one after
the other.
-/

namespace CallContract

/-! ### Single operations -/

def Member.withVisibility (member : Member) (visibility : Visibility) : Member :=
  { member with definition := { member.definition with visibility := visibility } }

/-- What an operation makes of the definition that a member has on a scope, if any. -/
def Operation.redefine
    (operation : Operation)
    (space : ObjectSpace)
    (scope : ScopeId)
    (name : Symbol)
    (own : Option Member) : Option Member :=
  match operation with
  | .defineMember onto called visibility parameters body =>
      if onto = scope ∧ called = name ∧ space.scopes.Has scope then
        some ⟨⟨name, scope, visibility, parameters⟩, body⟩
      else own
  | .setVisibility onto called visibility =>
      if onto = scope ∧ called = name then own.map (·.withVisibility visibility) else own
  | .typedAccessors .. =>
      own.or ((operation.performAtOnce.run space).2.ownMember? scope name)
  | _ => own

def Operation.LeavesMembers : Operation → Prop
  | .defineMember .. | .setVisibility .. | .typedAccessors .. => False
  | _ => True

/-- The contracts that an operation puts in force. -/
def Operation.putsInForce (operation : Operation) (space : ObjectSpace) : List Registration :=
  match operation with
  | .typedAccessors .. =>
      (operation.performAtOnce.run space).2.registrations.drop space.registrations.length
  | _ => operation.registers space (operation.performAtOnce.run space).1

namespace ObjectSpace

variable {space middle after : ObjectSpace} {scope owner : ScopeId} {name : Symbol}
  {member : Member}

theorem ownMember?_of_members (h : after.members = space.members) :
    after.ownMember? scope name = space.ownMember? scope name := by
  unfold ownMember?
  rw [h]

theorem Provides.members (h : space.Provides scope middle) : middle.members = space.members := by
  cases h <;> rfl

theorem PutsOn.members
    {operation : Operation} {signature : Signature} (h : space.PutsOn after operation signature) :
    after.members = space.members := by
  obtain ⟨_, _, _, hprovides, rfl, -⟩ := h
  exact hprovides.members

theorem run_change_members
    {wrap : ε → Failure} {respond : α → Response}
    {change : ObjectSpace → Except ε (α × ObjectSpace)}
    (hkeeps : ∀ result after, change space = .ok (result, after) →
      after.members = space.members) :
    ((Action.change wrap respond change).run space).2.members = space.members := by
  rw [Action.run_change]
  cases hresult : change space with
  | error error => rfl
  | ok result => exact hkeeps result.1 result.2 hresult

/-! ### Members that an operation leaves -/

theorem members_singletonScope
    {receiver : Value} (h : space.singletonScope receiver = .ok (owner, after)) :
    after.members = space.members :=
  (provides_of_singletonScope h).members

theorem members_accessorOwner
    {onSelf : Bool} (h : (accessorOwner onSelf scope).run space = (.ok owner, after)) :
    after.members = space.members := by
  obtain ⟨-, hcarrier⟩ := accessorOwner_eq_ok_iff.mp h
  cases onSelf with
  | false => rw [hcarrier.2]
  | true => exact members_singletonScope hcarrier

theorem Supplies.keeps_own
    {offers : List Member} (h : space.Supplies owner offers after)
    (hown : space.ownMember? scope name = some member) :
    after.ownMember? scope name = some member := by
  by_cases hscope : scope = owner
  · subst hscope
    rw [h.kept scope name (.inr (definesMember_of_ownMember? h.has hown)), hown]
  · rw [h.kept scope name (.inl hscope), hown]

/-- Typed accessors, be they granted or refused in part, take no place of a member. -/
theorem typedAccessors_keep_own
    (hspace : space.WellScoped) {kind : AccessorKind} {onSelf : Bool} {onto : ScopeId}
    {names : List String} {behavior : Term} {outcome : Except ContractError Unit}
    (hrun : (typedAccessors kind onSelf onto names behavior).run space = (outcome, after))
    (hown : space.ownMember? scope name = some member) :
    after.ownMember? scope name = some member := by
  have hgranted : ∀ kind state,
      (typedAccessors kind onSelf onto names behavior).run space = (.ok (), state) →
        state.ownMember? scope name = some member := by
    intro kind state hok
    obtain ⟨owner, carrier, howner, hsupplies⟩ :=
      supplies_of_typedAccessors hspace.formed hok
    apply hsupplies.keeps_own
    rw [ownMember?_of_members (members_accessorOwner howner), hown]
  cases outcome with
  | ok => exact hgranted kind after hrun
  | error error =>
      rcases typedAccessors_of_refused hspace.formed hrun with
        ⟨rfl, -⟩ | ⟨⟨owner, howner⟩, -⟩ | ⟨hread, -⟩
      · exact hown
      · rw [ownMember?_of_members (members_accessorOwner howner), hown]
      · exact hgranted .reader after hread

theorem ownMember?_defineMember
    (onto : ScopeId) (called : Symbol) (visibility : Visibility) (parameters : Parameters)
    (body : Body) :
    let operation := Operation.defineMember onto called visibility parameters body
    (operation.performAtOnce.run space).2.ownMember? scope name =
      operation.redefine space scope name (space.ownMember? scope name) := by
  intro operation
  let made : Member := ⟨⟨called, onto, visibility, parameters⟩, body⟩
  rw [Operation.performAtOnce, Operation.perform_eq_inSteps, Operation.inSteps,
    Action.run_change]
  by_cases hhas : space.scopes.Has onto
  · have hdefined : space.defineMember onto called visibility parameters body =
        .ok (made.definition, (space.insertMember made).consumePending onto called) := by
      rw [defineMember, ensureScope_of_has hhas]
      rfl
    rw [hdefined]
    refine (ownMember?_insertMember made scope name).trans ?_
    by_cases hsame : onto = scope ∧ called = name
    · obtain ⟨rfl, rfl⟩ := hsame
      simp [operation, Operation.redefine, made, hhas]
    · simp [operation, Operation.redefine, made, hsame, ← and_assoc]
  · have hrefused : ∃ error,
        space.defineMember onto called visibility parameters body = .error error := by
      rw [defineMember, ensureScope, ScopeTable.find, ScopeTable.get?_of_not_has hhas]
      exact ⟨_, rfl⟩
    obtain ⟨error, hrefused⟩ := hrefused
    rw [hrefused]
    have hother : ¬ (onto = scope ∧ called = name ∧ space.scopes.Has scope) := by
      rintro ⟨rfl, -, hscope⟩
      exact hhas hscope
    simp [operation, Operation.redefine, hother]

theorem ownMember?_setVisibility (onto : ScopeId) (called : Symbol) (visibility : Visibility) :
    let operation := Operation.setVisibility onto called visibility
    (operation.performAtOnce.run space).2.ownMember? scope name =
      operation.redefine space scope name (space.ownMember? scope name) := by
  intro operation
  rw [Operation.performAtOnce, Operation.perform_eq_inSteps, Operation.inSteps,
    Action.run_change, Action.silently, setVisibility]
  cases hown : space.ownMember? onto called with
  | none =>
      by_cases hsame : onto = scope ∧ called = name
      · obtain ⟨rfl, rfl⟩ := hsame
        simp [operation, Operation.redefine, hown, Except.map]
      · simp [operation, Operation.redefine, hsame, Except.map]
  | some member =>
      change Table.get? (space.members.put ⟨onto, called⟩ (member.withVisibility visibility))
        ⟨scope, name⟩ = _
      rw [Table.get?_put]
      by_cases hsame : onto = scope ∧ called = name
      · obtain ⟨rfl, rfl⟩ := hsame
        simp [operation, Operation.redefine, hown]
      · simp only [operation, Operation.redefine, if_neg hsame, MemberKey.mk.injEq]
        rfl

theorem ownMember?_typedAccessors
    (hspace : space.WellScoped) (kind : AccessorKind) (onSelf : Bool) (onto : ScopeId)
    (names : List String) (behavior : Term) :
    let operation := Operation.typedAccessors kind onSelf onto names behavior
    (operation.performAtOnce.run space).2.ownMember? scope name =
      operation.redefine space scope name (space.ownMember? scope name) := by
  intro operation
  cases hown : space.ownMember? scope name with
  | none => rfl
  | some member =>
      rcases hrun : (typedAccessors kind onSelf onto names behavior).run space with
        ⟨outcome, after⟩
      have hafter : (operation.performAtOnce.run space).2 = after := by
        change (((typedAccessors kind onSelf onto names behavior).respond _ _).run space).2 = _
        rw [Action.respond, Action.run_handle, hrun]
        cases outcome <;> rfl
      rw [hafter]
      exact typedAccessors_keep_own hspace hrun hown

theorem members_performAtOnce {operation : Operation} (h : operation.LeavesMembers) :
    (operation.performAtOnce.run space).2.members = space.members := by
  rw [Operation.performAtOnce, Operation.perform_eq_inSteps]
  cases operation with
  | defineMember | setVisibility | typedAccessors => exact h.elim
  | call | send | clearTrace => rfl
  | defineClass | defineModule =>
      apply run_change_members
      intro result after hmade
      obtain ⟨made, -, hpair⟩ := bind_eq_ok_iff.mp hmade
      cases hpair
      rfl
  | includeModule =>
      apply run_change_members
      intro result after hmade
      obtain ⟨changed, hchanged, hpair⟩ := map_eq_ok_iff.mp hmade
      obtain ⟨table, -, htable⟩ := bind_eq_ok_iff.mp hchanged
      cases hpair
      cases htable
      rfl
  | newObject =>
      apply run_change_members
      intro result after hmade
      obtain ⟨definition, -, hobject⟩ := bind_eq_ok_iff.mp hmade
      split at hobject
      next =>
        cases hobject
        rfl
      next => cases hobject
  | singleton => exact run_change_members fun _ _ hmade => members_singletonScope hmade
  | writeVariable =>
      apply run_change_members
      intro result after hwritten
      obtain ⟨changed, hchanged, hpair⟩ := map_eq_ok_iff.mp hwritten
      cases hpair
      unfold writeVariable at hchanged
      split at hchanged
      next =>
        cases hchanged
        rfl
      next => cases hchanged
  | register => exact run_change_members fun _ _ hmade => (putsOn_of_register hmade).members
  | contract =>
      apply run_change_members
      intro result after hmade
      rw [registerSignature_of_contract hmade]
      rfl
  | contractSelf =>
      exact run_change_members fun _ _ hmade => (putsOn_of_contractSelf hmade).members
  | contractOn => exact run_change_members fun _ _ hmade => (putsOn_of_contractOn hmade).members
  | annotate =>
      apply run_change_members
      intro result after hkept
      unfold annotate at hkept
      split at hkept
      next =>
        obtain ⟨⟨⟩, -, hrest⟩ := bind_eq_ok_iff.mp hkept
        obtain ⟨compiled, -, hpair⟩ := bind_eq_ok_iff.mp hrest
        cases hpair
        rfl
      next => cases hkept

/-- An operation makes of a definition what it says, wherever the member is defined. -/
theorem ownMember?_performAtOnce
    (hspace : space.WellScoped) (operation : Operation) (scope : ScopeId) (name : Symbol) :
    (operation.performAtOnce.run space).2.ownMember? scope name =
      operation.redefine space scope name (space.ownMember? scope name) := by
  cases operation with
  | defineMember => exact ownMember?_defineMember ..
  | setVisibility => exact ownMember?_setVisibility ..
  | typedAccessors => exact ownMember?_typedAccessors hspace ..
  | _ => exact ownMember?_of_members (members_performAtOnce trivial)

/-! ### Contracts that an operation puts in force -/

theorem registrations_of_isSingle
    (space : ObjectSpace) {operation : Operation} (hsingle : operation.IsSingle) :
    (operation.performAtOnce.run space).2.registrations =
      space.registrations ++
        operation.registers space (operation.performAtOnce.run space).1 := by
  have hcall : operation.asCall? = none := by
    cases operation with
    | call | send => exact hsingle.elim
    | _ => rfl
  have hperform : space.perform operation = operation.performAtOnce.run space := by
    rw [perform, Operation.perform_of_no_call hcall]
  have hregisters := perform_registrations space hsingle
  rwa [hperform] at hregisters

theorem registrations_performAtOnce (space : ObjectSpace) (operation : Operation) :
    (operation.performAtOnce.run space).2.registrations =
      space.registrations ++ operation.putsInForce space := by
  cases operation with
  | typedAccessors kind onSelf onto names behavior =>
      obtain ⟨made, hmade⟩ := (Operation.performAtOnce_reaches
        (.typedAccessors kind onSelf onto names behavior) space).registrations_grow
      rw [Operation.putsInForce, ← hmade, List.drop_left]
  | call | send => exact (List.append_nil _).symm
  | _ => exact space.registrations_of_isSingle trivial

end ObjectSpace

/-! ### Bodies that begin and calls that end -/

theorem Body.begin_members (body : Body) (frame : Frame) (space : ObjectSpace) :
    (body.begin frame space).2.members = space.members ∧
      (body.begin frame space).2.registrations = space.registrations := by
  obtain ⟨values, hbegun⟩ := body.begin_writes_variables frame space
  rw [hbegun]
  exact ⟨rfl, rfl⟩

theorem ObjectSpace.recordOutcome_members
    (space : ObjectSpace) (interceptors : List ScopeId) (frame : Frame) (returned : Option Value)
    (error : Option CallError) :
    (space.recordOutcome interceptors frame returned error).members = space.members ∧
      (space.recordOutcome interceptors frame returned error).registrations =
        space.registrations := by
  obtain ⟨entries, hrecorded⟩ := space.recordOutcome_writes_trace interceptors frame returned error
  rw [hrecorded]
  exact ⟨rfl, rfl⟩

/-! ### Executions -/

/-- An operation, and the object space in which it is performed. -/
structure Performance where
  operation : Operation
  space : ObjectSpace

/-- What performances make of the definition that a member has on a scope. -/
def redefinedBy
    (scope : ScopeId)
    (name : Symbol)
    (own : Option Member)
    (performed : List Performance) : Option Member :=
  performed.foldl
    (fun own performance => performance.operation.redefine performance.space scope name own) own

/-- The contracts that performances put in force, in order. -/
def registeredBy (performed : List Performance) : List Registration :=
  performed.flatMap fun performance => performance.operation.putsInForce performance.space

/-- The most recent contract of a member on a scope among some contracts. -/
def latestIn? (made : List Registration) (scope : ScopeId) (name : Symbol) : Option Signature :=
  ((made.filter fun registration =>
    registration.scope = scope ∧ registration.member = name).getLast?).map (·.signature)

/-- Definitions are what performances have made of those of another space, and
signatures are the latest ones that were put in force, or those of that space. -/
structure ObjectSpace.IsLeftBy
    (after space : ObjectSpace)
    (performed : List Performance) : Prop where
  definitions : ∀ scope name,
    after.ownMember? scope name = redefinedBy scope name (space.ownMember? scope name) performed
  signatures : ∀ scope name,
    after.signature? scope name =
      (latestIn? (registeredBy performed) scope name).or (space.signature? scope name)

theorem latestIn?_append
    (earlier later : List Registration) (scope : ScopeId) (name : Symbol) :
    latestIn? (earlier ++ later) scope name =
      (latestIn? later scope name).or (latestIn? earlier scope name) := by
  unfold latestIn?
  rw [List.filter_append, List.getLast?_append, Option.map_or]

/-- The registry of either space holds the latest of its registrations. -/
theorem ObjectSpace.isLeftBy_of_registrations
    {space after : ObjectSpace} {performed : List Performance}
    (hspace : space.FollowsRegistrations) (hafter : after.FollowsRegistrations)
    (hdefinitions : ∀ scope name, after.ownMember? scope name =
      redefinedBy scope name (space.ownMember? scope name) performed)
    (hregistrations : after.registrations = space.registrations ++ registeredBy performed) :
    after.IsLeftBy space performed where
  definitions := hdefinitions
  signatures := by
    intro scope name
    have hlatest : ∀ state : ObjectSpace,
        state.latest? scope name = latestIn? state.registrations scope name := fun _ => rfl
    rw [hafter.signature, hspace.signature, hlatest, hlatest, hregistrations, latestIn?_append]

section Call

variable {operation : Operation} {invocation : Invocation}

/-! A call changes nothing by itself: what its body performs follows. -/

theorem Operation.redefine_of_asCall?
    (h : operation.asCall? = some invocation) (space : ObjectSpace) (scope : ScopeId)
    (name : Symbol) (own : Option Member) : operation.redefine space scope name own = own := by
  cases operation with
  | call | send => rfl
  | _ => cases h

theorem Operation.putsInForce_of_asCall?
    (h : operation.asCall? = some invocation) (space : ObjectSpace) :
    operation.putsInForce space = [] := by
  cases operation with
  | call | send => rfl
  | _ => cases h

end Call

namespace Execution

variable {now next last : Execution} {happening happened : List Happening} {steps : Nat}

/-- The operation that the next step performs, or makes a call of. -/
def performing (now : Execution) : List Performance :=
  match now.control, now.agenda with
  | .answered _, operation :: _ => [⟨operation, now.space⟩]
  | .running _ (.perform operation _), _ => [⟨operation, now.space⟩]
  | _, _ => []

/-- What is performed in a number of steps, in order. -/
def performed : Nat → Execution → List Performance
  | 0, _ => []
  | steps + 1, now =>
      match now.step? with
      | none => []
      | some (_, next) => now.performing ++ performed steps next

theorem performed_succ (hstep : now.step? = some (happening, next)) (steps : Nat) :
    now.performed (steps + 1) = now.performing ++ next.performed steps := by
  rw [performed, hstep]

/-- Nothing but what is performed in a step changes a definition. -/
theorem Step.ownMember?
    (hstep : Step now happening next) (hspace : now.space.WellScoped) (scope : ScopeId)
    (name : Symbol) :
    next.space.ownMember? scope name =
      redefinedBy scope name (now.space.ownMember? scope name) now.performing := by
  cases hstep with
  | takeUp | perform => exact ObjectSpace.ownMember?_performAtOnce hspace _ scope name
  | takeUpCall hcall | cutOff hcall | performCall hcall =>
      exact (Operation.redefine_of_asCall? hcall _ scope name _).symm
  | begin => exact ObjectSpace.ownMember?_of_members (Body.begin_members _ _ _).1
  | refuseArguments | finish =>
      exact ObjectSpace.ownMember?_of_members (ObjectSpace.recordOutcome_members _ _ _ _ _).1
  | _ => rfl

/-- Nothing but what is performed in a step puts contracts in force. -/
theorem Step.registrations (hstep : Step now happening next) :
    next.space.registrations = now.space.registrations ++ registeredBy now.performing := by
  cases hstep with
  | takeUp | perform =>
      rw [ObjectSpace.registrations_performAtOnce]
      simp [registeredBy, performing]
  | takeUpCall hcall | cutOff hcall | performCall hcall =>
      simp [registeredBy, performing, Operation.putsInForce_of_asCall? hcall]
  | begin =>
      rw [(Body.begin_members _ _ _).2]
      exact (List.append_nil _).symm
  | refuseArguments | finish =>
      rw [(ObjectSpace.recordOutcome_members _ _ _ _ _).2]
      exact (List.append_nil _).symm
  | _ => exact (List.append_nil _).symm

theorem reaches_after? (h : now.after? steps = some (happened, last)) :
    now.space.Reaches last.space :=
  @after?_invariant now last (fun moment => now.space.Reaches moment.space)
    (fun _ _ _ hmoment hstep => hmoment.trans hstep.reaches) steps happened .refl h

/-- By induction on the steps. -/
theorem ownMember?_after?
    (h : now.after? steps = some (happened, last)) (hspace : now.space.IsReachable)
    (scope : ScopeId) (name : Symbol) :
    last.space.ownMember? scope name =
      redefinedBy scope name (now.space.ownMember? scope name) (now.performed steps) := by
  induction steps generalizing now happened with
  | zero =>
      obtain ⟨rfl, rfl⟩ := Prod.mk.inj (Option.some.inj h)
      rfl
  | succ steps ih =>
      obtain ⟨happening, next, later, hnext, hrest, rfl⟩ := after?_succ_eq_some_iff.mp h
      have hstep := step_of_step? hnext
      rw [ih hrest (hspace.reaches hstep.reaches), hstep.ownMember? hspace.wellScoped,
        performed_succ hnext, redefinedBy, redefinedBy, redefinedBy, List.foldl_append]

/-- By induction on the steps. -/
theorem registrations_after? (h : now.after? steps = some (happened, last)) :
    last.space.registrations = now.space.registrations ++ registeredBy (now.performed steps) := by
  induction steps generalizing now happened with
  | zero =>
      obtain ⟨rfl, rfl⟩ := Prod.mk.inj (Option.some.inj h)
      exact (List.append_nil _).symm
  | succ steps ih =>
      obtain ⟨happening, next, later, hnext, hrest, rfl⟩ := after?_succ_eq_some_iff.mp h
      rw [ih hrest, (step_of_step? hnext).registrations, performed_succ hnext,
        registeredBy, registeredBy, registeredBy, List.flatMap_append, List.append_assoc]

end Execution

end CallContract
