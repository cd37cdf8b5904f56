import CallContract.ObjectSpace.Fleet
import Mathlib.Logic.Relation

/-!
# What an object space can become

Everything that happens to an object space is a sequence of a few kinds of
changes, whether it is asked for from outside or by the body of a member that
runs inside any number of calls.  A property that each kind of change keeps is
therefore kept by every operation, and no later proof has to follow the
execution of programs again.
-/

namespace CallContract

inductive ScopeTable.Change (table : ScopeTable) : ScopeTable → Prop
  | defineClass {name : String} {superclass : Option ScopeId} {id : ScopeId} {after : ScopeTable}
      (h : table.defineClass name superclass = .ok (id, after)) : Change table after
  | defineModule {name : String} {id : ScopeId} {after : ScopeTable}
      (h : table.defineModule name = .ok (id, after)) : Change table after
  | includeModule {scope included : ScopeId} {after : ScopeTable}
      (h : table.includeModule scope included = .ok after) : Change table after
  | singletonOf {attached : Attachment} {id : ScopeId} {after : ScopeTable}
      (h : table.singletonOf attached = .ok (id, after)) : Change table after

/-- One change of an object space. -/
inductive ObjectSpace.Change (space : ObjectSpace) : ObjectSpace → Prop
  | scopes {table : ScopeTable} (h : space.scopes.Change table) :
      Change space { space with scopes := table }
  | newObject :
      Change space { space with nextObject := ⟨space.nextObject.number + 1⟩ }
  | writeVariable (key : VariableKey) (value : Value) :
      Change space { space with variableValues := space.variableValues.put key value }
  | defineMember (member : Member) {definition : ScopeDefinition}
      (h : space.scopes.get? member.definition.owner = some definition) :
      Change space
        ((space.insertMember member).consumePending member.definition.owner
          member.definition.name)
  | setVisibility {scope : ScopeId} {name : Symbol} {member : Member} (visibility : Visibility)
      (h : space.ownMember? scope name = some member) :
      Change space { space with
        members := space.members.put ⟨scope, name⟩
          { member with definition := { member.definition with visibility := visibility } } }
  | register (scope : ScopeId) (member : Symbol) {term : Term} {signature : Signature}
      (h : term.signature = .ok signature) :
      Change space (space.registerSignature scope member signature)
  | annotate {scope : ScopeId} {definition : ScopeDefinition} {term : Term}
      {signature : Signature} (hscope : space.scopes.get? scope = some definition)
      (h : term.signature = .ok signature) :
      Change space { space with pending := space.pending.put scope signature }
  | record (entry : TraceEntry) : Change space (space.recordCall entry)
  | clearTrace : Change space space.clearTrace

abbrev ObjectSpace.Reaches : ObjectSpace → ObjectSpace → Prop :=
  Relation.ReflTransGen ObjectSpace.Change

/-- Wherever an action starts, it is a sequence of changes, also if it fails. -/
def Action.Reaches (action : Action ε α) : Prop :=
  ∀ space : ObjectSpace, space.Reaches (action.run space).2

namespace Action

theorem reaches_pure (result : α) : (pure result : Action ε α).Reaches :=
  fun _ => .refl

theorem reaches_throw (error : ε) : (throw error : Action ε α).Reaches :=
  fun _ => .refl

theorem Reaches.bind
    {action : Action ε α} {next : α → Action ε β}
    (haction : action.Reaches) (hnext : ∀ result, (next result).Reaches) :
    (action >>= next).Reaches := by
  intro space
  have hfirst := haction space
  rw [run_bind]
  rcases hrun : action.run space with ⟨outcome, after⟩
  rw [hrun] at hfirst
  cases outcome with
  | ok result => exact hfirst.trans (hnext result after)
  | error error => exact hfirst

theorem Reaches.handle
    {action : Action ε α} {next : Except ε α → Action ε' β}
    (haction : action.Reaches) (hnext : ∀ outcome, (next outcome).Reaches) :
    (action.handle next).Reaches := by
  intro space
  rw [run_handle]
  exact (haction space).trans (hnext _ _)

theorem Reaches.respond
    {action : Action ε α} (haction : action.Reaches)
    (wrap : ε → ε') (respond : α → β) : (action.respond wrap respond).Reaches := by
  apply haction.handle
  intro outcome
  cases outcome with
  | ok result => exact reaches_pure _
  | error error => exact reaches_throw _

theorem reaches_step
    {wrap : ε → ε'} {change : ObjectSpace → Except ε (α × ObjectSpace)}
    (hchange : ∀ space result after,
      change space = .ok (result, after) → space.Reaches after) :
    (step wrap change).Reaches := by
  intro space
  rw [step, ExceptT.run_mk]
  cases hresult : change space with
  | error error => exact .refl
  | ok result => exact hchange space result.1 result.2 hresult

theorem reaches_change
    {wrap : ε → Failure} {respond : α → Response}
    {change : ObjectSpace → Except ε (α × ObjectSpace)}
    (hchange : ∀ space result after,
      change space = .ok (result, after) → space.Reaches after) :
    (Action.change wrap respond change).Reaches := by
  apply reaches_step
  intro space response after hmap
  obtain ⟨⟨result, changed⟩, hresult, heq⟩ := map_eq_ok_iff.mp hmap
  obtain ⟨-, rfl⟩ := Prod.mk.inj heq
  exact hchange space result changed hresult

theorem reaches_forM
    {names : List String} {body : String → Action ε Unit}
    (hbody : ∀ name, (body name).Reaches) : (names.forM body).Reaches := by
  induction names with
  | nil => exact reaches_pure ()
  | cons name rest ih => exact (hbody name).bind fun _ => ih

end Action

/-! ### Single operations -/

namespace ObjectSpace

variable {space after : ObjectSpace}

theorem Change.reaches (h : space.Change after) : space.Reaches after :=
  .single h

theorem reaches_of_defineClass
    {name : String} {superclass : Option ScopeId} {id : ScopeId}
    (h : space.defineClass name superclass = .ok (id, after)) : space.Reaches after := by
  obtain ⟨⟨made, table⟩, htable, hpair⟩ := bind_eq_ok_iff.mp h
  cases hpair
  exact (Change.scopes (.defineClass htable)).reaches

theorem reaches_of_defineModule
    {name : String} {id : ScopeId}
    (h : space.defineModule name = .ok (id, after)) : space.Reaches after := by
  obtain ⟨⟨made, table⟩, htable, hpair⟩ := bind_eq_ok_iff.mp h
  cases hpair
  exact (Change.scopes (.defineModule htable)).reaches

theorem reaches_of_includeModule
    {scope included : ScopeId}
    (h : space.includeModule scope included = .ok after) : space.Reaches after := by
  obtain ⟨table, htable, hpair⟩ := bind_eq_ok_iff.mp h
  cases hpair
  exact (Change.scopes (.includeModule htable)).reaches

theorem reaches_of_newObject
    {ofClass : ScopeId} {value : Value}
    (h : space.newObject ofClass = .ok (value, after)) : space.Reaches after := by
  obtain ⟨definition, -, hmade⟩ := bind_eq_ok_iff.mp h
  split at hmade
  next =>
    cases hmade
    exact Change.newObject.reaches
  next => cases hmade

theorem reaches_of_singletonScope
    {receiver : Value} {id : ScopeId}
    (h : space.singletonScope receiver = .ok (id, after)) : space.Reaches after := by
  unfold singletonScope at h
  cases hattached : receiver.attachment? with
  | none => simp [hattached] at h
  | some attached =>
      rw [hattached] at h
      obtain ⟨⟨made, table⟩, htable, hpair⟩ := bind_eq_ok_iff.mp h
      cases hpair
      exact (Change.scopes (.singletonOf htable)).reaches

theorem reaches_of_writeVariable
    {receiver : Value} {name : String} {value : Value}
    (h : space.writeVariable receiver name value = .ok after) : space.Reaches after := by
  unfold writeVariable at h
  cases hattached : receiver.attachment? with
  | none => simp [hattached] at h
  | some holder =>
      rw [hattached] at h
      cases h
      exact (Change.writeVariable _ _).reaches

theorem get?_of_ensureScope
    {scope : ScopeId} (h : space.ensureScope scope = .ok ()) :
    ∃ definition, space.scopes.get? scope = some definition := by
  obtain ⟨definition, hfind, -⟩ := bind_eq_ok_iff.mp h
  unfold ScopeTable.find at hfind
  cases hget : space.scopes.get? scope with
  | none => simp [hget] at hfind
  | some found => exact ⟨found, rfl⟩

theorem get?_of_requireScope
    {scope : ScopeId} (h : space.requireScope scope = .ok ()) :
    ∃ definition, space.scopes.get? scope = some definition := by
  unfold requireScope at h
  cases hget : space.scopes.get? scope with
  | none => simp [hget] at h
  | some found => exact ⟨found, rfl⟩

theorem reaches_of_defineMember
    {scope : ScopeId} {name : Symbol} {visibility : Visibility} {parameters : Parameters}
    {body : Body} {definition : MemberDefinition}
    (h : space.defineMember scope name visibility parameters body = .ok (definition, after)) :
    space.Reaches after := by
  obtain ⟨⟨⟩, hscope, hpair⟩ := bind_eq_ok_iff.mp h
  obtain ⟨found, hget⟩ := get?_of_ensureScope hscope
  cases hpair
  exact (Change.defineMember ⟨⟨name, scope, visibility, parameters⟩, body⟩ hget).reaches

theorem reaches_of_setVisibility
    {scope : ScopeId} {name : Symbol} {visibility : Visibility}
    (h : space.setVisibility scope name visibility = .ok after) : space.Reaches after := by
  unfold setVisibility at h
  cases hown : space.ownMember? scope name with
  | none => simp [hown] at h
  | some member =>
      rw [hown] at h
      cases h
      exact (Change.setVisibility visibility hown).reaches

theorem reaches_of_compileAndRegister
    {scope : ScopeId} {member : Symbol} {term : Term} {signature : Signature}
    (h : space.compileAndRegister scope member term = .ok (signature, after)) :
    space.Reaches after := by
  obtain ⟨compiled, hcompiled, hpair⟩ := bind_eq_ok_iff.mp h
  cases hpair
  exact (Change.register scope member hcompiled).reaches

theorem reaches_of_contract
    {scope : ScopeId} {member : Symbol} {term : Term} {signature : Signature}
    (h : space.contract scope member term = .ok (signature, after)) :
    space.Reaches after := by
  obtain ⟨⟨⟩, -, hrest⟩ := bind_eq_ok_iff.mp h
  obtain ⟨compiled, hcompiled, hpair⟩ := bind_eq_ok_iff.mp hrest
  cases hpair
  exact (Change.register scope member (mapError_eq_ok_iff.mp hcompiled)).reaches

theorem reaches_of_contractSingleton
    {receiver : Value} {member : Symbol} {term : Term} {signature : Signature}
    (h : space.contractSingleton receiver member term = .ok (signature, after)) :
    space.Reaches after := by
  obtain ⟨compiled, hcompiled, hrest⟩ := bind_eq_ok_iff.mp h
  obtain ⟨⟨singleton, middle⟩, hsingleton, hpair⟩ := bind_eq_ok_iff.mp hrest
  have hmiddle := reaches_of_singletonScope (mapError_eq_ok_iff.mp hsingleton)
  cases hpair
  exact hmiddle.tail (.register singleton member (mapError_eq_ok_iff.mp hcompiled))

theorem reaches_of_contractSelf
    {scope : ScopeId} {member : Symbol} {term : Term} {signature : Signature}
    (h : space.contractSelf scope member term = .ok (signature, after)) :
    space.Reaches after := by
  obtain ⟨⟨⟩, -, hrest⟩ := bind_eq_ok_iff.mp h
  exact reaches_of_contractSingleton hrest

theorem reaches_of_contractOn
    {receiver : Value} {member : Symbol} {term : Term} {signature : Signature}
    (h : space.contractOn receiver member term = .ok (signature, after)) :
    space.Reaches after := by
  unfold contractOn at h
  split at h
  next scope => exact reaches_of_contract h
  next => exact reaches_of_contractSingleton h

theorem reaches_of_annotate
    {receiver : Value} {term : Term} {result : Unit}
    (h : space.annotate receiver term = .ok (result, after)) : space.Reaches after := by
  unfold annotate at h
  split at h
  next scope =>
    obtain ⟨⟨⟩, hscope, hrest⟩ := bind_eq_ok_iff.mp h
    obtain ⟨found, hget⟩ := get?_of_requireScope hscope
    obtain ⟨compiled, hcompiled, hpair⟩ := bind_eq_ok_iff.mp hrest
    cases hpair
    exact (Change.annotate hget (mapError_eq_ok_iff.mp hcompiled)).reaches
  next => cases h

/-! ### Typed accessors -/

theorem reaches_of_provideMember
    {owner : ScopeId} {member : Symbol} {parameters : Parameters} {body : Body}
    (h : space.provideMember owner member parameters body = .ok after) :
    space.Reaches after := by
  unfold provideMember at h
  split at h
  next =>
    cases h
    exact .refl
  next =>
    obtain ⟨⟨definition, defined⟩, hdefined, rfl⟩ := map_eq_ok_iff.mp h
    exact reaches_of_defineMember hdefined

theorem reaches_of_accessor
    {owner : ScopeId} {member : Symbol} {parameters : Parameters} {body : Body}
    {term : Term} {signature : Signature} {result : Unit}
    (hsignature : term.signature = .ok signature)
    (h : accessor owner member parameters body signature space = .ok (result, after)) :
    space.Reaches after := by
  obtain ⟨middle, hmiddle, hpair⟩ := bind_eq_ok_iff.mp h
  have hreaches := reaches_of_provideMember hmiddle
  cases hpair
  exact hreaches.tail (.register owner member hsignature)

end ObjectSpace

namespace Action

open ObjectSpace

/-- What follows an outcome that does not depend on the object space has to be
a sequence of changes only if that outcome is a success. -/
theorem reaches_liftM_bind
    {outcome : Except ε α} {next : α → Action ε β}
    (hnext : ∀ result, outcome = .ok result → (next result).Reaches) :
    ((liftM outcome : Action ε α) >>= next).Reaches := by
  intro space
  rw [run_bind, run_liftM]
  cases outcome with
  | ok result => exact hnext result rfl space
  | error error => exact .refl

theorem accessors_reach
    {term : Term} {signature : Signature} (hsignature : term.signature = .ok signature)
    (names : List String) (owner : ScopeId) (member : String → Symbol)
    (parameters : Parameters) (body : String → Body) :
    (names.forM fun name =>
      Action.step ContractError.scope
        (ObjectSpace.accessor owner (member name) parameters (body name) signature)).Reaches := by
  apply reaches_forM
  intro name
  apply reaches_step
  intro space result after haccessor
  exact reaches_of_accessor hsignature haccessor

theorem defineAccessors_reaches
    {owner : ScopeId} {names : List String} {term : Term} {member : String → Symbol}
    {parameters : Parameters} {body : String → Body} :
    (defineAccessors owner names (compile term) member parameters body).Reaches := by
  rw [defineAccessors_eq]
  apply reaches_liftM_bind
  intro _ _
  apply reaches_liftM_bind
  intro signature hsignature
  exact accessors_reach (mapError_eq_ok_iff.mp hsignature) names owner member parameters body

theorem accessorOwner_reaches (onSelf : Bool) (scope : ScopeId) :
    (accessorOwner onSelf scope).Reaches := by
  rw [accessorOwner_eq]
  apply Reaches.bind (fun _ => .refl)
  intro space
  apply reaches_liftM_bind
  intro _ _
  split
  next =>
    apply reaches_step
    intro before id after hsingleton
    exact reaches_of_singletonScope hsingleton
  next => exact reaches_pure scope

theorem typedAccessors_reaches
    (kind : AccessorKind) (onSelf : Bool) (scope : ScopeId)
    (names : List String) (behavior : Term) :
    (typedAccessors kind onSelf scope names behavior).Reaches := by
  have hreader : (typedReader onSelf scope names behavior).Reaches :=
    (accessorOwner_reaches onSelf scope).bind fun _ => defineAccessors_reaches
  have hwriter : (typedWriter onSelf scope names behavior).Reaches :=
    (accessorOwner_reaches onSelf scope).bind fun _ => defineAccessors_reaches
  cases kind with
  | reader => exact hreader
  | writer => exact hwriter
  | both => exact hreader.bind fun _ => hwriter

end Action

/-! ### Operations, programs and calls -/

theorem Operation.perform_reaches
    {fromOutside : OutsideCalls}
    (houtside : ∀ mode receiver member arguments,
      (fromOutside mode receiver member arguments).Reaches)
    (operation : Operation) : (operation.perform fromOutside).Reaches := by
  rw [Operation.perform_eq_inSteps]
  cases operation with
  | defineClass name superclass =>
      exact Action.reaches_change fun _ _ _ h => ObjectSpace.reaches_of_defineClass h
  | defineModule name =>
      exact Action.reaches_change fun _ _ _ h => ObjectSpace.reaches_of_defineModule h
  | includeModule scope included =>
      apply Action.reaches_change
      intro space result after h
      obtain ⟨changed, hchanged, hpair⟩ := map_eq_ok_iff.mp h
      cases hpair
      exact ObjectSpace.reaches_of_includeModule hchanged
  | newObject ofClass =>
      exact Action.reaches_change fun _ _ _ h => ObjectSpace.reaches_of_newObject h
  | singleton receiver =>
      exact Action.reaches_change fun _ _ _ h => ObjectSpace.reaches_of_singletonScope h
  | defineMember scope name visibility parameters body =>
      exact Action.reaches_change fun _ _ _ h => ObjectSpace.reaches_of_defineMember h
  | setVisibility scope name visibility =>
      apply Action.reaches_change
      intro space result after h
      obtain ⟨changed, hchanged, hpair⟩ := map_eq_ok_iff.mp h
      cases hpair
      exact ObjectSpace.reaches_of_setVisibility hchanged
  | writeVariable receiver name value =>
      apply Action.reaches_change
      intro space result after h
      obtain ⟨changed, hchanged, hpair⟩ := map_eq_ok_iff.mp h
      cases hpair
      exact ObjectSpace.reaches_of_writeVariable hchanged
  | register scope member term =>
      exact Action.reaches_change fun _ _ _ h => ObjectSpace.reaches_of_compileAndRegister h
  | contract scope member term =>
      exact Action.reaches_change fun _ _ _ h => ObjectSpace.reaches_of_contract h
  | contractSelf scope member term =>
      exact Action.reaches_change fun _ _ _ h => ObjectSpace.reaches_of_contractSelf h
  | contractOn receiver member term =>
      exact Action.reaches_change fun _ _ _ h => ObjectSpace.reaches_of_contractOn h
  | annotate receiver term =>
      exact Action.reaches_change fun _ _ _ h => ObjectSpace.reaches_of_annotate h
  | typedAccessors kind onSelf scope names behavior =>
      exact (Action.typedAccessors_reaches kind onSelf scope names behavior).respond _ _
  | call receiver member arguments => exact (houtside _ _ _ _).respond _ _
  | send receiver member arguments => exact (houtside _ _ _ _).respond _ _
  | clearTrace => exact fun _ => ObjectSpace.Change.clearTrace.reaches

/-- Both ways back into an object space are sequences of changes. -/
structure Reentry.Reaches (reentry : Reentry) : Prop where
  fromBody : ∀ mode receiver member arguments,
    (reentry.fromBody mode receiver member arguments).Reaches
  fromOutside : ∀ mode receiver member arguments,
    (reentry.fromOutside mode receiver member arguments).Reaches

/-- A program is a sequence of changes if the calls that it makes are. -/
theorem Program.run_reaches
    {reentry : Reentry} (hreentry : reentry.Reaches) (frame : Frame) (program : Program) :
    (program.run reentry frame).Reaches := by
  induction program with
  | finish outcome => exact fun _ => .refl
  | observe next ih => exact fun space => ih space.observe space
  | call receiver member arguments next ih => exact (hreentry.fromBody _ _ _ _).handle ih
  | send member arguments next ih => exact (hreentry.fromBody _ _ _ _).handle ih
  | perform operation next ih =>
      exact (operation.perform_reaches hreentry.fromOutside).handle ih

theorem Body.run_reaches
    {reentry : Reentry} (hreentry : reentry.Reaches) (frame : Frame) (body : Body) :
    (body.run reentry frame).Reaches := by
  cases body with
  | builtin operation =>
      apply Action.reaches_step
      intro space result after h
      obtain ⟨value, -, hpair⟩ := map_eq_ok_iff.mp h
      cases hpair
      exact .refl
  | reader name => exact fun _ => .refl
  | writer name =>
      apply Action.reaches_step
      intro space result after h
      obtain ⟨written, hwritten, hpair⟩ := map_eq_ok_iff.mp h
      cases hpair
      exact ObjectSpace.reaches_of_writeVariable hwritten
  | script program => exact Program.run_reaches hreentry frame (program frame)

theorem ObjectSpace.recordOutcome_reaches
    (space : ObjectSpace) (interceptors : List ScopeId) (frame : Frame)
    (returned : Option Value) (error : Option CallError) :
    space.Reaches (space.recordOutcome interceptors frame returned error) := by
  rcases space.recordOutcome_eq interceptors frame returned error with hkept | ⟨entry, hrecorded⟩
  · rw [hkept]
  · rw [hrecorded]
    exact (Change.record entry).reaches

theorem runChecked_reaches
    {interceptors : List ScopeId} {frame : Frame} {body : Run Value} (hbody : body.Reaches) :
    (runChecked interceptors frame body).Reaches := by
  intro space
  have hafter := hbody space
  unfold runChecked
  simp only [ExceptT.run_mk]
  split
  next => exact space.recordOutcome_reaches _ _ _ _
  next =>
    split
    next error after hrun =>
      rw [hrun] at hafter
      exact hafter.trans (after.recordOutcome_reaches _ _ _ _)
    next value after hrun =>
      rw [hrun] at hafter
      split <;> exact hafter.trans (after.recordOutcome_reaches _ _ _ _)

/-- Calls are sequences of changes, by induction on the levels that are left. -/
theorem dispatch_reaches
    {fromOutside : OutsideCalls}
    (houtside : ∀ mode receiver member arguments,
      (fromOutside mode receiver member arguments).Reaches)
    (left depth : Nat) (mode : CallMode) (receiver : Value) (member : Symbol)
    (arguments : Arguments) :
    (dispatch fromOutside left depth mode receiver member arguments).Reaches := by
  induction left generalizing depth mode receiver member arguments with
  | zero => exact fun _ => .refl
  | succ left ih =>
      intro space
      have hreentry : Reentry.Reaches ⟨dispatch fromOutside left (depth + 1), fromOutside⟩ :=
        ⟨ih (depth + 1), houtside⟩
      simp only [dispatch, ExceptT.run_mk]
      split
      next => exact .refl
      next found bound hfound =>
        split
        next => exact Body.run_reaches hreentry _ _ space
        next => exact runChecked_reaches (Body.run_reaches hreentry _ _) space

theorem callFromOutside_reaches
    (reentries : Nat) (mode : CallMode) (receiver : Value) (member : Symbol)
    (arguments : Arguments) :
    (callFromOutside reentries mode receiver member arguments).Reaches := by
  induction reentries generalizing mode receiver member arguments with
  | zero => exact Action.reaches_throw _
  | succ reentries ih =>
      have hdispatch : (dispatchAt (callFromOutside reentries) 0 mode receiver member
          arguments).Reaches := fun space => dispatch_reaches ih _ _ _ _ _ _ space
      exact hdispatch.respond _ _

/-- The identity and the settings of an object space are fixed. -/
theorem ObjectSpace.Change.fixed
    {space after : ObjectSpace} (h : space.Change after) :
    after.id = space.id ∧ after.settings = space.settings := by
  cases h with
  | defineMember member hscope =>
      unfold consumePending
      split <;> exact ⟨rfl, rfl⟩
  | _ => exact ⟨rfl, rfl⟩

theorem ObjectSpace.Reaches.fixed
    {space after : ObjectSpace} (h : space.Reaches after) :
    after.id = space.id ∧ after.settings = space.settings := by
  induction h with
  | refl => exact ⟨rfl, rfl⟩
  | tail hbefore hchange ih =>
      exact ⟨hchange.fixed.1.trans ih.1, hchange.fixed.2.trans ih.2⟩

theorem ObjectSpace.perform_reaches (space : ObjectSpace) (operation : Operation) :
    space.Reaches (space.perform operation).2 :=
  operation.perform_reaches (callFromOutside_reaches _) space

theorem ObjectSpace.perform_of_isOk
    {space : ObjectSpace} {operation : Operation} (h : (space.perform operation).1.isOk = true) :
    ∃ response, space.perform operation = (.ok response, (space.perform operation).2) := by
  cases houtcome : (space.perform operation).1 with
  | ok response => exact ⟨response, Prod.ext houtcome rfl⟩
  | error failure =>
      rw [houtcome] at h
      cases h

/-! ### Moments of a fleet -/

/-- An object space as it is at some moment in a fleet, also within a call. -/
def ObjectSpace.IsReachable (space : ObjectSpace) : Prop :=
  ∃ settings steps index start,
    ((Fleet.ofSettings settings).after steps).space? index = some start ∧ start.Reaches space

theorem ObjectSpace.IsReachable.reaches
    {space after : ObjectSpace} (hspace : space.IsReachable) (hreaches : space.Reaches after) :
    after.IsReachable := by
  obtain ⟨settings, steps, index, start, hstart, hbefore⟩ := hspace
  exact ⟨settings, steps, index, start, hstart, hbefore.trans hreaches⟩

section Induction

variable {holds : ObjectSpace → Prop}
  (hchange : ∀ space after, holds space → space.Change after → holds after)
  (hregistry : ∀ space registry, holds space → holds (space.withRegistry registry))

include hchange in
theorem ObjectSpace.Reaches.induction
    {space after : ObjectSpace} (h : space.Reaches after) (hspace : holds space) :
    holds after := by
  induction h with
  | refl => exact hspace
  | tail _ hlast ih => exact hchange _ _ ih hlast

include hchange hregistry

theorem Fleet.induction_perform
    {fleet : Fleet} (hfleet : ∀ index space, fleet.space? index = some space → holds space)
    (target : Nat) (operation : Operation) :
    ∀ index after, (fleet.perform target operation).2.space? index = some after → holds after := by
  intro index after hafter
  cases htarget : fleet.space? target with
  | none =>
      rw [perform_of_no_space operation htarget] at hafter
      exact hfleet index after hafter
  | some acting =>
      rw [space?_perform operation htarget] at hafter
      split at hafter
      next =>
        cases hafter
        exact (acting.perform_reaches operation).induction hchange (hfleet _ _ htarget)
      next =>
        obtain ⟨before, hbefore, rfl⟩ := Option.map_eq_some_iff.mp hafter
        exact hregistry before _ (hfleet index before hbefore)

theorem Fleet.induction_after
    {fleet : Fleet} (hfleet : ∀ index space, fleet.space? index = some space → holds space)
    (steps : List (Nat × Operation)) :
    ∀ index after, (fleet.after steps).space? index = some after → holds after := by
  induction steps generalizing fleet with
  | nil => exact hfleet
  | cons step rest ih =>
      exact ih (induction_perform hchange hregistry hfleet step.1 step.2)

/-- What holds of a new object space, and is kept by every change and by whatever
others do to the registry, holds at every moment. -/
theorem ObjectSpace.IsReachable.induction
    (hinitial : ∀ id settings, holds (.initial id settings []))
    {space : ObjectSpace} (hspace : space.IsReachable) : holds space := by
  obtain ⟨settings, steps, index, start, hstart, hreaches⟩ := hspace
  have hfleet : ∀ index space,
      (Fleet.ofSettings settings).space? index = some space → holds space := by
    intro index space h
    obtain ⟨own, rfl⟩ := Fleet.space?_ofSettings h
    exact hinitial _ _
  exact hreaches.induction hchange
    (Fleet.induction_after hchange hregistry hfleet steps index start hstart)

end Induction

end CallContract
