import CallContract.Proofs.Registrations
import CallContract.Proofs.Simulation

/-!
# An object space on its own

Object spaces that share a registry number their scopes independently, so only
the identity in a key tells their contracts apart.  Nothing that happens to an
object space depends on the contracts of others: it does the same if the
registry is restricted to the contracts of its own, and what it leaves is the
same up to that restriction.
-/

namespace CallContract

/-- The contracts of one object space. -/
def Registry.ownedBy (registry : Registry) (id : SpaceId) : Registry :=
  registry.filter fun entry => entry.1.space == id

namespace Registry

variable (registry : Registry) {id : SpaceId} {key : ContractKey} (signature : Signature)

theorem signature?_ownedBy (hkey : key.space = id) :
    (registry.ownedBy id).signature? key = registry.signature? key :=
  Table.get?_filter registry (fun key => key.space == id) (by simp [hkey])

theorem ownedBy_register (hkey : key.space = id) :
    (registry.register key signature).ownedBy id = (registry.ownedBy id).register key signature :=
  Table.filter_put_of_own registry (fun key => key.space == id) (by simp [hkey]) signature

theorem ownedBy_register_foreign (hkey : key.space ≠ id) :
    (registry.register key signature).ownedBy id = registry.ownedBy id :=
  Table.filter_put_of_foreign registry (fun key => key.space == id) (by simp [hkey])
    signature

theorem membersOf_ownedBy (scope : ScopeId) :
    (registry.ownedBy id).membersOf id scope = registry.membersOf id scope := by
  have hkeys : (Table.keys (registry.ownedBy id)).filter
      (fun key => key.space == id && key.scope == scope) =
        (Table.keys registry).filter fun key => key.space == id && key.scope == scope := by
    unfold Table.keys ownedBy
    rw [List.filter_map, List.filter_map, List.filter_filter]
    congr 2
    funext entry
    by_cases hentry : entry.1.space = id <;> simp [hentry]
  unfold membersOf
  rw [hkeys]

end Registry

namespace ObjectSpace

/-- An object space with a registry of its own contracts only. -/
def alone (space : ObjectSpace) : ObjectSpace :=
  space.withRegistry (space.registry.ownedBy space.id)

variable {space : ObjectSpace}

/-! ### Questions -/

@[simp] theorem alone_settings : space.alone.settings = space.settings := rfl

@[simp] theorem alone_trace : space.alone.trace = space.trace := rfl

@[simp] theorem signature?_alone (scope : ScopeId) (member : Symbol) :
    space.alone.signature? scope member = space.signature? scope member :=
  Registry.signature?_ownedBy space.registry rfl

theorem isChecked_eq (scope : ScopeId) (member : Symbol) :
    space.isChecked scope member = (space.signature? scope member).isSome :=
  rfl

@[simp] theorem membersOf_alone (scope : ScopeId) :
    space.alone.registry.membersOf space.id scope =
      space.registry.membersOf space.id scope :=
  Registry.membersOf_ownedBy space.registry scope

/-- Calls ask for contracts of their own space only. -/
theorem alone_callsAlike (space : ObjectSpace) : space.CallsAlike space.alone where
  scopes := rfl
  members := rfl
  layers := rfl
  signatures := by
    funext scope member
    exact signature?_alone scope member
  matchDepth := rfl

theorem observe_alone : space.alone.observe = space.observe := by
  have hcontracted :
      space.alone.registry.membersOf space.id = space.registry.membersOf space.id := by
    funext scope
    exact membersOf_alone scope
  have hid : space.alone.id = space.id := rfl
  unfold observe
  rw [hid, space.alone_callsAlike.signatures, hcontracted]
  rfl

/-! ### Changes -/

/-- A change that does the same on an object space alone. -/
def IsLocal (change : ObjectSpace → Except ε (α × ObjectSpace)) : Prop :=
  ∀ space, change space.alone = (change space).map fun made => (made.1, made.2.alone)

theorem registerSignature_alone
    (space : ObjectSpace) (scope : ScopeId) (member : Symbol) (signature : Signature) :
    space.alone.registerSignature scope member signature =
      (space.registerSignature scope member signature).alone := by
  have hown : (⟨space.id, scope, member⟩ : ContractKey).space = space.id := rfl
  have hregistry := Registry.ownedBy_register space.registry signature hown
  unfold registerSignature alone withRegistry
  simp only [hregistry]
  rfl

theorem writeVariable_alone (receiver : Value) (name : String) (value : Value) :
    space.alone.writeVariable receiver name value =
      (space.writeVariable receiver name value).map alone := by
  unfold writeVariable
  cases receiver.attachment? <;> rfl

theorem alone_keptByContracts : KeptByContracts fun first second => second = first.alone where
  pending := fun h => h ▸ rfl
  putPending := fun h _ => h ▸ rfl
  register := fun {first _} h scope member signature =>
    h ▸ first.registerSignature_alone scope member signature

theorem alone_simulation :
    Simulation (fun first second => second = first.alone) fun _ => True where
  scopes := fun h => h ▸ rfl
  members := fun h => h ▸ rfl
  nextObject := fun h => h ▸ rfl
  bodies := fun _ _ _ _ => trivial
  reader := fun _ => trivial
  writer := fun _ => trivial
  putScopes := fun h _ => h ▸ rfl
  putMember := fun h _ _ _ => h ▸ rfl
  putNextObject := fun h _ => h ▸ rfl
  putVariable := fun h _ _ => h ▸ rfl
  consumePending := fun h => alone_keptByContracts.consumePending h (h ▸ rfl)

end ObjectSpace

/-! ### Actions -/

/-- An action that does the same on an object space alone. -/
def Action.IsLocal (action : Action ε α) : Prop :=
  ∀ space : ObjectSpace,
    action.run space.alone = ((action.run space).1, (action.run space).2.alone)

namespace Action

theorem isLocal_iff_respects {action : Action ε α} :
    action.IsLocal ↔ action.Respects fun first second => second = first.alone := by
  constructor
  · rintro hlocal space _ rfl
    rw [hlocal space]
    exact ⟨rfl, rfl⟩
  · intro hrespects space
    obtain ⟨houtcome, hafter⟩ := hrespects space space.alone rfl
    exact Prod.ext houtcome hafter

theorem IsLocal.handle
    {action : Action ε α} {next : Except ε α → Action ε' β}
    (haction : action.IsLocal) (hnext : ∀ outcome, (next outcome).IsLocal) :
    (action.handle next).IsLocal :=
  isLocal_iff_respects.mpr
    ((isLocal_iff_respects.mp haction).handle fun outcome =>
      isLocal_iff_respects.mp (hnext outcome))

theorem IsLocal.respond
    {action : Action ε α} (haction : action.IsLocal) (wrap : ε → ε') (respond : α → β) :
    (action.respond wrap respond).IsLocal :=
  isLocal_iff_respects.mpr ((isLocal_iff_respects.mp haction).respond wrap respond)

theorem isLocal_step
    {wrap : ε → ε'} {change : ObjectSpace → Except ε (α × ObjectSpace)}
    (hchange : ObjectSpace.IsLocal change) : (step wrap change).IsLocal := by
  intro space
  simp only [step, ExceptT.run_mk]
  rw [hchange space]
  cases change space <;> rfl

end Action

/-! ### Operations, programs and calls -/

theorem Operation.perform_isLocal
    {fromOutside : OutsideCalls}
    (houtside : ∀ mode receiver member arguments,
      (fromOutside mode receiver member arguments).IsLocal)
    (operation : Operation) : (operation.perform fromOutside).IsLocal := by
  have hdefines : operation.Defines fun _ => True := by
    cases operation <;> trivial
  apply Action.isLocal_iff_respects.mpr
  apply operation.perform_respects ObjectSpace.alone_simulation
  · exact fun _ mode receiver member arguments =>
      Action.isLocal_iff_respects.mp (houtside mode receiver member arguments)
  · exact hdefines
  · exact fun _ => ObjectSpace.alone_keptByContracts
  · exact fun _ _ _ h => h ▸ rfl

/-- Both ways back into an object space are local. -/
structure Reentry.IsLocal (reentry : Reentry) : Prop where
  fromBody : ∀ mode receiver member arguments,
    (reentry.fromBody mode receiver member arguments).IsLocal
  fromOutside : ∀ mode receiver member arguments,
    (reentry.fromOutside mode receiver member arguments).IsLocal

theorem Program.run_isLocal
    {reentry : Reentry} (hreentry : reentry.IsLocal) (frame : Frame) (program : Program) :
    (program.run reentry frame).IsLocal := by
  induction program with
  | finish outcome => exact fun _ => rfl
  | observe next ih =>
      intro space
      simp only [Program.run, ExceptT.run_mk]
      rw [ObjectSpace.observe_alone]
      exact ih space.observe space
  | call receiver member arguments next ih => exact (hreentry.fromBody _ _ _ _).handle ih
  | send member arguments next ih => exact (hreentry.fromBody _ _ _ _).handle ih
  | perform operation next ih =>
      exact (operation.perform_isLocal hreentry.fromOutside).handle ih

theorem Body.run_isLocal
    {reentry : Reentry} (hreentry : reentry.IsLocal) (frame : Frame) (body : Body) :
    (body.run reentry frame).IsLocal := by
  cases body with
  | builtin operation =>
      apply Action.isLocal_step
      intro space
      simp only [space.alone_callsAlike.builtin]
      cases operation.run space frame <;> rfl
  | reader name => exact fun _ => rfl
  | writer name =>
      apply Action.isLocal_step
      intro space
      simp only [ObjectSpace.writeVariable_alone]
      cases space.writeVariable frame.receiver name (frame.argument 0) <;> rfl
  | script program => exact Program.run_isLocal hreentry frame (program frame)

theorem ObjectSpace.recordOutcome_alone
    (space : ObjectSpace) (interceptors : List ScopeId) (frame : Frame)
    (returned : Option Value) (error : Option CallError) :
    space.alone.recordOutcome interceptors frame returned error =
      (space.recordOutcome interceptors frame returned error).alone := by
  unfold recordOutcome
  rw [alone_settings]
  split <;> rfl

theorem runChecked_isLocal
    {interceptors : List ScopeId} {frame : Frame} {body : Run Value} (hbody : body.IsLocal) :
    (runChecked interceptors frame body).IsLocal := by
  intro space
  unfold runChecked
  simp only [ExceptT.run_mk, space.alone_callsAlike.signaturesFor,
    space.alone_callsAlike.checkAllArguments]
  split
  next => rw [ObjectSpace.recordOutcome_alone]
  next =>
    rw [hbody space]
    rcases body.run space with ⟨outcome, after⟩
    cases outcome with
    | error error => simp only [ObjectSpace.recordOutcome_alone]
    | ok value =>
        simp only [after.alone_callsAlike.checkAllResults]
        split <;> simp only [ObjectSpace.recordOutcome_alone]

theorem dispatch_isLocal
    {fromOutside : OutsideCalls}
    (houtside : ∀ mode receiver member arguments,
      (fromOutside mode receiver member arguments).IsLocal)
    (left depth : Nat) (mode : CallMode) (receiver : Value) (member : Symbol)
    (arguments : Arguments) :
    (dispatch fromOutside left depth mode receiver member arguments).IsLocal := by
  induction left generalizing depth mode receiver member arguments with
  | zero => exact fun _ => rfl
  | succ left ih =>
      intro space
      have hreentry : Reentry.IsLocal ⟨dispatch fromOutside left (depth + 1), fromOutside⟩ :=
        ⟨ih (depth + 1), houtside⟩
      simp only [dispatch, ExceptT.run_mk, space.alone_callsAlike.resolveCall]
      split
      next => rfl
      next found bound hfound =>
        split
        next => exact Body.run_isLocal hreentry _ _ space
        next => exact runChecked_isLocal (Body.run_isLocal hreentry _ _) space

theorem callFromOutside_isLocal
    (reentries : Nat) (mode : CallMode) (receiver : Value) (member : Symbol)
    (arguments : Arguments) :
    (callFromOutside reentries mode receiver member arguments).IsLocal := by
  induction reentries generalizing mode receiver member arguments with
  | zero => exact fun _ => rfl
  | succ reentries ih =>
      have hdispatch : (dispatchAt (callFromOutside reentries) 0 mode receiver member
          arguments).IsLocal := fun space => dispatch_isLocal ih _ _ _ _ _ _ space
      exact hdispatch.respond _ _

/-- Whatever happens to an object space happens in the same way without the
contracts of others. -/
theorem ObjectSpace.perform_alone (space : ObjectSpace) (operation : Operation) :
    space.alone.perform operation =
      ((space.perform operation).1, (space.perform operation).2.alone) :=
  operation.perform_isLocal (callFromOutside_isLocal _) space

/-- What happens to an object space leaves the contracts of others. -/
theorem ObjectSpace.Reaches.ownedBy_of_others
    {space after : ObjectSpace} (h : space.Reaches after) {id : SpaceId} (hid : space.id ≠ id) :
    after.registry.ownedBy id = space.registry.ownedBy id := by
  induction h with
  | refl => rfl
  | @tail middle last hbefore hchange ih =>
      rcases hchange.contracts with hsame | ⟨before, scope, member, signature, hsame, rfl⟩
      · rw [hsame.registry]
        exact ih
      · have hforeign : before.id ≠ id := by
          rw [hsame.id, Reaches.fixed hbefore |>.1]
          exact hid
        have hkey : (⟨before.id, scope, member⟩ : ContractKey).space ≠ id := hforeign
        have hregister := Registry.ownedBy_register_foreign before.registry signature hkey
        exact hregister.trans (by rw [hsame.registry, ih])

end CallContract
