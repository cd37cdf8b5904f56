import CallContract.Proofs.DeclarationOrder
import CallContract.Proofs.Resolution
import CallContract.Proofs.Simulation

/-!
# Object spaces without their contracts

Contracts refuse calls and do nothing else.  A body is oblivious if it reaches
members only by calls from within, passes the failure of such a call on, and
neither makes nor inspects contracts.  Where all bodies are oblivious, a call
that returns a value under contracts returns it without them, and what it
leaves differs in the contracts and the trace only.

The two executions are compared along one program: whatever it does in an
object space, it does in the one from which the contracts were removed, and
checks that pass have no other effect than an entry of the trace.
-/

namespace CallContract

/-! ### Oblivious bodies -/

/-- What can be seen apart from contracts and the trace. -/
def Observation.withoutContracts (seen : Observation) : Observation :=
  { seen with
    layer? := fun _ => none
    signature? := fun _ _ => none
    contracted := fun _ => []
    trace := [] }

/-- A program that ends with an error whatever happens to it. -/
def Program.Fails : Program → Prop
  | .finish (.ok _) => False
  | .finish (.error _) => True
  | .observe next => ∀ seen, (next seen).Fails
  | .call _ _ _ next => ∀ outcome, (next outcome).Fails
  | .send _ _ next => ∀ outcome, (next outcome).Fails
  | .perform _ next => ∀ outcome, (next outcome).Fails

mutual

/-- A failed call of another member makes an oblivious program fail; failed
operations may be survived. -/
def Program.IsOblivious : Program → Prop
  | .finish _ => True
  | .observe next =>
      (∀ seen, next seen = next seen.withoutContracts) ∧ ∀ seen, (next seen).IsOblivious
  | .call _ _ _ next =>
      (∀ value, (next (.ok value)).IsOblivious) ∧ ∀ error, (next (.error error)).Fails
  | .send _ _ next =>
      (∀ value, (next (.ok value)).IsOblivious) ∧ ∀ error, (next (.error error)).Fails
  | .perform operation next => operation.IsOblivious ∧ ∀ outcome, (next outcome).IsOblivious

def Body.IsOblivious : Body → Prop
  | .builtin _ | .reader _ | .writer _ => True
  | .script program => ∀ frame, (program frame).IsOblivious

/-- Operations that are neither calls from outside nor about contracts, and
define oblivious bodies only. -/
def Operation.IsOblivious : Operation → Prop
  | .defineClass .. | .defineModule .. | .includeModule .. | .newObject .. | .singleton .. => True
  | .setVisibility .. | .writeVariable .. | .clearTrace => True
  | .defineMember _ _ _ _ body => body.IsOblivious
  | .register .. | .contract .. | .contractSelf .. | .contractOn .. => False
  | .annotate .. | .typedAccessors .. | .call .. | .send .. => False

end

namespace ObjectSpace

structure IsOblivious (space : ObjectSpace) : Prop where
  pending : space.pending = []
  bodies : ∀ key member, space.members.get? key = some member → member.body.IsOblivious

/-- An object space in which no scope checks a member, with any registry and
any trace. -/
def uncontracted
    (space : ObjectSpace)
    (registry : Registry)
    (trace : List TraceEntry) : ObjectSpace :=
  { space with layers := [], registry := registry, trace := trace }

/-- An object space from which all its layers and signatures were removed. -/
def withoutContracts (space : ObjectSpace) : ObjectSpace :=
  space.uncontracted (space.registry.filter fun entry => entry.1.space != space.id) space.trace

variable {space after : ObjectSpace} {registry : Registry} {trace : List TraceEntry}

theorem observe_uncontracted :
    (space.uncontracted registry trace).observe.withoutContracts =
      space.observe.withoutContracts :=
  rfl

theorem resolveAlong_uncontracted (name : Symbol) (chain : List ScopeId) :
    (space.uncontracted registry trace).resolveAlong name chain =
      (space.resolveAlong name chain).map fun found => ⟨found.member, []⟩ := by
  induction chain with
  | nil => rfl
  | cons scope rest ih =>
      have hown : (space.uncontracted registry trace).ownMember? scope name =
          space.ownMember? scope name := rfl
      have hunchecked : (space.uncontracted registry trace).intercepts scope name = false := rfl
      unfold resolveAlong
      rw [ih, hown, hunchecked]
      cases space.ownMember? scope name with
      | some member => rfl
      | none => cases space.resolveAlong name rest <;> rfl

theorem resolve?_uncontracted (receiver : Value) (name : Symbol) :
    (space.uncontracted registry trace).resolve? receiver name =
      (space.resolve? receiver name).map fun found => ⟨found.member, []⟩ :=
  resolveAlong_uncontracted name _

theorem respondsTo_uncontracted (receiver : Value) (name : Symbol) :
    (space.uncontracted registry trace).respondsTo receiver name =
      space.respondsTo receiver name := by
  unfold respondsTo
  rw [resolve?_uncontracted]
  cases space.resolve? receiver name <;> rfl

theorem resolveCall_uncontracted
    (mode : CallMode) (receiver : Value) (name : Symbol) (arguments : Arguments) :
    (space.uncontracted registry trace).resolveCall mode receiver name arguments =
      (space.resolveCall mode receiver name arguments).map fun admitted =>
        (⟨admitted.1.member, []⟩, admitted.2) := by
  unfold resolveCall
  rw [resolve?_uncontracted]
  cases space.resolve? receiver name with
  | none => rfl
  | some found =>
      have hreach : (space.uncontracted registry trace).mayReach found.member.definition mode =
          space.mayReach found.member.definition mode := rfl
      simp only [Option.map_some, hreach]
      split
      next => cases found.member.definition.parameters.bind arguments <;> rfl
      next => rfl

theorem builtin_uncontracted (operation : Builtin) (frame : Frame) :
    operation.run (space.uncontracted registry trace) frame = operation.run space frame := by
  cases operation with
  | respondsTo =>
      simp only [Builtin.run, answerRespondsTo, respondsTo_uncontracted]
      rfl
  | _ => rfl

theorem recordOutcome_uncontracted
    (interceptors : List ScopeId) (frame : Frame) (returned : Option Value)
    (error : Option CallError) :
    (space.recordOutcome interceptors frame returned error).uncontracted registry trace =
      space.uncontracted registry trace := by
  obtain ⟨entries, hrecorded⟩ :=
    space.recordOutcome_writes_trace interceptors frame returned error
  rw [hrecorded]
  rfl

/-! ### Oblivious object spaces -/

theorem IsOblivious.of_same_members
    (hspace : space.IsOblivious) (hpending : after.pending = space.pending)
    (hmembers : after.members = space.members) : after.IsOblivious where
  pending := hpending.trans hspace.pending
  bodies := by
    rw [hmembers]
    exact hspace.bodies

theorem IsOblivious.put_member
    (hspace : space.IsOblivious) (hpending : after.pending = space.pending)
    {key : MemberKey} {member : Member} (hmember : member.body.IsOblivious)
    (hmembers : after.members = space.members.put key member) : after.IsOblivious where
  pending := hpending.trans hspace.pending
  bodies := by
    rw [hmembers]
    exact fun _ _ => Table.of_get?_put hspace.bodies hmember

theorem IsOblivious.recordOutcome
    (hspace : space.IsOblivious) (interceptors : List ScopeId) (frame : Frame)
    (returned : Option Value) (error : Option CallError) :
    (space.recordOutcome interceptors frame returned error).IsOblivious := by
  obtain ⟨entries, hrecorded⟩ :=
    space.recordOutcome_writes_trace interceptors frame returned error
  rw [hrecorded]
  exact hspace.of_same_members rfl rfl

theorem IsOblivious.body_of_resolveCall
    (hspace : space.IsOblivious) {mode : CallMode} {receiver : Value} {name : Symbol}
    {arguments bound : Arguments} {found : Resolution}
    (hresolve : space.resolveCall mode receiver name arguments = .ok (found, bound)) :
    found.member.body.IsOblivious := by
  obtain ⟨_, hown⟩ := exists_ownMember?_of_resolveCall hresolve
  exact hspace.bodies _ _ hown

/-- A change that does the same without contracts, and keeps bodies oblivious. -/
def IsBlind (change : ObjectSpace → Except ε (α × ObjectSpace)) : Prop :=
  ∀ space, space.IsOblivious →
    (∀ registry trace,
      change (space.uncontracted registry trace) =
        (change space).map fun made => (made.1, made.2.uncontracted registry trace)) ∧
    ∀ result after, change space = .ok (result, after) → after.IsOblivious

/-- What oblivious bodies do takes the same course without contracts: with no
annotation waiting, a definition does no more than to insert its member. -/
theorem uncontracted_simulation (registry : Registry) :
    Simulation
      (fun first second => first.IsOblivious ∧ ∃ trace, second = first.uncontracted registry trace)
      Body.IsOblivious where
  scopes := fun ⟨_, _, h⟩ => h ▸ rfl
  members := fun ⟨_, _, h⟩ => h ▸ rfl
  nextObject := fun ⟨_, _, h⟩ => h ▸ rfl
  bodies := fun h => h.1.bodies
  reader := fun _ => trivial
  writer := fun _ => trivial
  putScopes := fun ⟨hspace, trace, h⟩ _ => ⟨hspace.of_same_members rfl rfl, trace, h ▸ rfl⟩
  putMember := fun ⟨hspace, trace, h⟩ _ _ hbody =>
    ⟨hspace.put_member rfl hbody rfl, trace, h ▸ rfl⟩
  putNextObject := fun ⟨hspace, trace, h⟩ _ => ⟨hspace.of_same_members rfl rfl, trace, h ▸ rfl⟩
  putVariable := fun ⟨hspace, trace, h⟩ _ _ => ⟨hspace.of_same_members rfl rfl, trace, h ▸ rfl⟩
  consumePending := by
    rintro first _ ⟨hspace, trace, rfl⟩ scope member
    rw [consumePending_of_no_pending hspace.pending,
      consumePending_of_no_pending (by exact hspace.pending)]
    exact ⟨hspace, trace, rfl⟩

end ObjectSpace

/-! ### Actions -/

/-- An action that has the same outcome without contracts, be it a result or an
error, and leaves the same up to contracts and the trace. -/
def Action.IsBlind (action : Action ε α) : Prop :=
  ∀ space : ObjectSpace, space.IsOblivious →
    (action.run space).2.IsOblivious ∧
      ∀ registry trace, ∃ later,
        action.run (space.uncontracted registry trace) =
          ((action.run space).1, (action.run space).2.uncontracted registry later)

/-- An action whose results, though not its errors, are the same without
contracts. -/
def Action.SurvivesErasure (action : Action ε α) : Prop :=
  ∀ (space after : ObjectSpace) result, space.IsOblivious →
    action.run space = (.ok result, after) →
      after.IsOblivious ∧
        ∀ registry trace, ∃ later,
          action.run (space.uncontracted registry trace) =
            (.ok result, after.uncontracted registry later)

namespace Action

theorem IsBlind.survivesErasure {action : Action ε α} (h : action.IsBlind) :
    action.SurvivesErasure := by
  intro space after result hspace hrun
  have hblind := h space hspace
  rw [hrun] at hblind
  exact hblind

theorem isBlind_step
    {wrap : ε → ε'} {change : ObjectSpace → Except ε (α × ObjectSpace)}
    (hchange : ObjectSpace.IsBlind change) : (step wrap change).IsBlind := by
  intro space hspace
  obtain ⟨hsame, hkeeps⟩ := hchange space hspace
  simp only [step, ExceptT.run_mk, hsame]
  cases hresult : change space with
  | error error => exact ⟨hspace, fun registry trace => ⟨trace, rfl⟩⟩
  | ok result =>
      exact ⟨hkeeps result.1 result.2 hresult, fun registry trace => ⟨trace, rfl⟩⟩

end Action

theorem Operation.perform_isBlind
    (fromOutside : OutsideCalls)
    {operation : Operation} (hoblivious : operation.IsOblivious) :
    (operation.perform fromOutside).IsBlind := by
  have hcall : ¬ operation.IsCall := by
    intro h
    cases operation with
    | call | send => exact hoblivious
    | _ => exact h
  have hcontracts : ¬ operation.ConcernsContracts := by
    intro h
    cases operation with
    | register | contract | contractSelf | contractOn | annotate | typedAccessors =>
        exact hoblivious
    | _ => exact h
  have hdefines : operation.Defines Body.IsOblivious := by
    cases operation with
    | defineMember => exact hoblivious
    | _ => trivial
  have hrespects : ∀ registry, (operation.perform fromOutside).Respects fun first second =>
      first.IsOblivious ∧ ∃ trace, second = first.uncontracted registry trace := by
    intro registry
    apply operation.perform_respects (ObjectSpace.uncontracted_simulation registry)
    · exact fun h => (hcall h).elim
    · exact hdefines
    · exact fun h => (hcontracts h).elim
    · rintro - first _ ⟨hspace, _, rfl⟩
      exact ⟨hspace.of_same_members rfl rfl, [], rfl⟩
  intro space hspace
  refine ⟨(hrespects [] space _ ⟨hspace, [], rfl⟩).2.1, fun registry trace => ?_⟩
  obtain ⟨houtcome, -, later, hafter⟩ := hrespects registry space _ ⟨hspace, trace, rfl⟩
  exact ⟨later, Prod.ext houtcome hafter⟩

/-! ### Programs and calls -/

theorem Program.not_ok_of_fails
    {reentry : Reentry} {frame : Frame} {program : Program} (hfails : program.Fails)
    (space after : ObjectSpace) (value : Value) :
    (program.run reentry frame).run space ≠ (.ok value, after) := by
  induction program generalizing space with
  | finish outcome =>
      intro hrun
      cases outcome with
      | ok result => exact hfails
      | error error => cases hrun
  | observe next ih => exact ih space.observe (hfails _) space
  | call receiver member arguments next ih => exact ih _ (hfails _) _
  | send member arguments next ih => exact ih _ (hfails _) _
  | perform operation next ih => exact ih _ (hfails _) _

/-- A nested call that survives the removal of contracts, in a program that
fails if the call does. -/
theorem Action.SurvivesErasure.handle
    {action : Run Value} (haction : action.SurvivesErasure)
    {next : Except CallError Value → Run Value}
    (hnext : ∀ value, (next (.ok value)).SurvivesErasure)
    (hfails : ∀ error (space after : ObjectSpace) value,
      (next (.error error)).run space ≠ (.ok value, after)) :
    (action.handle next).SurvivesErasure := by
  intro space after value hspace hrun
  rw [Action.run_handle] at hrun
  rcases hcalled : action.run space with ⟨outcome, middle⟩
  rw [hcalled] at hrun
  cases outcome with
  | error error => exact (hfails error middle after value hrun).elim
  | ok returned =>
      obtain ⟨hmiddle, hbare⟩ := haction space middle returned hspace hcalled
      obtain ⟨hafter, hrest⟩ := hnext returned middle after value hmiddle hrun
      refine ⟨hafter, ?_⟩
      intro registry trace
      obtain ⟨between, hbetween⟩ := hbare registry trace
      obtain ⟨later, hlater⟩ := hrest registry between
      refine ⟨later, ?_⟩
      rw [Action.run_handle, hbetween]
      exact hlater

/-- What an oblivious program returns, by induction on the program: calls are
followed by what they return, and operations by any outcome. -/
theorem Program.run_survivesErasure
    {reentry : Reentry}
    (hcalls : ∀ mode receiver member arguments,
      (reentry.fromBody mode receiver member arguments).SurvivesErasure)
    (frame : Frame) {program : Program} (hoblivious : program.IsOblivious) :
    (program.run reentry frame).SurvivesErasure := by
  induction program with
  | finish outcome =>
      intro space after value hspace hrun
      cases hrun
      exact ⟨hspace, fun registry trace => ⟨trace, rfl⟩⟩
  | observe next ih =>
      intro space after value hspace hrun
      obtain ⟨hsame, hnext⟩ := hoblivious
      obtain ⟨hafter, hbare⟩ := ih space.observe (hnext _) space after value hspace hrun
      refine ⟨hafter, ?_⟩
      intro registry trace
      obtain ⟨later, hlater⟩ := hbare registry trace
      refine ⟨later, ?_⟩
      have hseen : next (space.uncontracted registry trace).observe = next space.observe := by
        rw [hsame, hsame space.observe, ObjectSpace.observe_uncontracted]
      change ((next (space.uncontracted registry trace).observe).run reentry frame).run _ = _
      rw [hseen]
      exact hlater
  | call receiver member arguments next ih =>
      exact (hcalls _ receiver member arguments).handle
        (fun value => ih _ (hoblivious.1 value))
        fun error space after value => not_ok_of_fails (hoblivious.2 error) space after value
  | send member arguments next ih =>
      exact (hcalls _ frame.receiver member arguments).handle
        (fun value => ih _ (hoblivious.1 value))
        fun error space after value => not_ok_of_fails (hoblivious.2 error) space after value
  | perform operation next ih =>
      intro space after value hspace hrun
      obtain ⟨hmiddle, hbare⟩ :=
        operation.perform_isBlind reentry.fromOutside hoblivious.1 space hspace
      obtain ⟨hafter, hrest⟩ := ih _ (hoblivious.2 _) _ after value hmiddle hrun
      refine ⟨hafter, ?_⟩
      intro registry trace
      obtain ⟨between, hbetween⟩ := hbare registry trace
      obtain ⟨later, hlater⟩ := hrest registry between
      refine ⟨later, ?_⟩
      simp only [Program.run, Action.run_handle]
      rw [hbetween]
      exact hlater

theorem Body.run_survivesErasure
    {reentry : Reentry}
    (hcalls : ∀ mode receiver member arguments,
      (reentry.fromBody mode receiver member arguments).SurvivesErasure)
    (frame : Frame) {body : Body} (hoblivious : body.IsOblivious) :
    (body.run reentry frame).SurvivesErasure := by
  cases body with
  | builtin operation =>
      apply Action.IsBlind.survivesErasure
      apply Action.isBlind_step
      intro space hspace
      constructor
      · intro registry trace
        simp only [ObjectSpace.builtin_uncontracted]
        cases operation.run space frame <;> rfl
      · intro result after h
        obtain ⟨value, -, hpair⟩ := map_eq_ok_iff.mp h
        cases hpair
        exact hspace
  | reader name =>
      intro space after value hspace hrun
      cases hrun
      exact ⟨hspace, fun registry trace => ⟨trace, rfl⟩⟩
  | writer name =>
      apply Action.IsBlind.survivesErasure
      apply Action.isBlind_step
      intro space hspace
      simp only [ObjectSpace.writeVariable]
      cases frame.receiver.attachment? with
      | none => exact ⟨fun _ _ => rfl, fun _ _ h => by cases h⟩
      | some holder =>
          refine ⟨fun _ _ => rfl, ?_⟩
          intro result after h
          cases h
          exact hspace.of_same_members rfl rfl
  | script program => exact Program.run_survivesErasure hcalls frame (hoblivious frame)

/-- A checked call that returns has run its body to the same value. -/
theorem body_run_of_runChecked
    {interceptors : List ScopeId} {frame : Frame} {body : Run Value}
    {space after : ObjectSpace} {value : Value}
    (hrun : (runChecked interceptors frame body).run space = (.ok value, after)) :
    ∃ middle, body.run space = (.ok value, middle) ∧
      after = middle.recordOutcome interceptors frame (some value) none := by
  simp only [runChecked, ExceptT.run_mk] at hrun
  split at hrun
  next => cases hrun
  next =>
    split at hrun
    next => cases hrun
    next returned middle hbody =>
      split at hrun
      next => cases hrun
      next =>
        cases hrun
        exact ⟨middle, hbody, rfl⟩

theorem runChecked_survivesErasure
    {interceptors : List ScopeId} {frame : Frame} {body : Run Value}
    (hbody : body.SurvivesErasure) {space after : ObjectSpace} {value : Value}
    (hspace : space.IsOblivious)
    (hrun : (runChecked interceptors frame body).run space = (.ok value, after)) :
    after.IsOblivious ∧
      ∀ registry trace, ∃ later,
        body.run (space.uncontracted registry trace) =
          (.ok value, after.uncontracted registry later) := by
  obtain ⟨middle, hmiddle, rfl⟩ := body_run_of_runChecked hrun
  obtain ⟨hoblivious, hbare⟩ := hbody space middle value hspace hmiddle
  refine ⟨hoblivious.recordOutcome _ _ _ _, ?_⟩
  intro registry trace
  obtain ⟨later, hlater⟩ := hbare registry trace
  refine ⟨later, ?_⟩
  rw [ObjectSpace.recordOutcome_uncontracted]
  exact hlater

/-- By induction on the levels that are left: without contracts the same member
is found and nothing surrounds its body. -/
theorem dispatch_survivesErasure
    (fromOutside : OutsideCalls)
    (left depth : Nat) (mode : CallMode) (receiver : Value) (member : Symbol)
    (arguments : Arguments) :
    (dispatch fromOutside left depth mode receiver member arguments).SurvivesErasure := by
  induction left generalizing depth mode receiver member arguments with
  | zero =>
      intro space after value hspace hrun
      cases hrun
  | succ left ih =>
      intro space after value hspace hrun
      simp only [dispatch, ExceptT.run_mk] at hrun ⊢
      simp only [ObjectSpace.resolveCall_uncontracted]
      cases hresolve : space.resolveCall mode receiver member arguments with
      | error error =>
          rw [hresolve] at hrun
          cases hrun
      | ok admitted =>
          obtain ⟨found, bound⟩ := admitted
          let reentry : Reentry := ⟨dispatch fromOutside left (depth + 1), fromOutside⟩
          have hcalls : ∀ mode receiver member arguments,
              (reentry.fromBody mode receiver member arguments).SurvivesErasure :=
            ih (depth + 1)
          have hbody := Body.run_survivesErasure hcalls ⟨receiver, member, bound, depth + 1⟩
            (hspace.body_of_resolveCall hresolve)
          rw [hresolve] at hrun
          simp only at hrun
          split at hrun
          next => exact hbody space after value hspace hrun
          next => exact runChecked_survivesErasure hbody hspace hrun

theorem dispatchAt_survivesErasure
    (fromOutside : OutsideCalls)
    (depth : Nat) (mode : CallMode) (receiver : Value) (member : Symbol) (arguments : Arguments) :
    (dispatchAt fromOutside depth mode receiver member arguments).SurvivesErasure := by
  intro space after value hspace hrun
  exact dispatch_survivesErasure fromOutside _ depth mode receiver member arguments space after
    value hspace hrun

/-- Contracts only refuse: a call that returns a value under contracts, with all
the calls inside it, returns the same value when all layers and signatures are
gone, and leaves the same scopes, members and instance variables. -/
theorem contracts_only_reject
    (reentries depth : Nat) (mode : CallMode) (receiver : Value) (member : Symbol)
    (arguments : Arguments) {space after : ObjectSpace} {value : Value}
    (hpending : space.pending = [])
    (hbodies : ∀ key found, space.members.get? key = some found → found.body.IsOblivious)
    (hrun : (dispatchAt (callFromOutside reentries) depth mode receiver member arguments).run
      space = (.ok value, after)) :
    ∃ bareAfter,
      (dispatchAt (callFromOutside reentries) depth mode receiver member arguments).run
          space.withoutContracts = (.ok value, bareAfter) ∧
        bareAfter.scopes = after.scopes ∧
        bareAfter.members = after.members ∧
        bareAfter.variableValues = after.variableValues := by
  have hspace : space.IsOblivious := ⟨hpending, hbodies⟩
  obtain ⟨-, hbare⟩ := dispatchAt_survivesErasure (callFromOutside reentries) depth mode receiver
    member arguments space after value hspace hrun
  obtain ⟨later, hlater⟩ := hbare _ space.trace
  exact ⟨_, hlater, rfl, rfl, rfl⟩

theorem contracts_only_reject_along_a_nested_call :
    ∃ space after bareAfter : ObjectSpace,
      (space.contractsOn ⟨"check"⟩ [.nilClass, .object]).length = 1 ∧
        (space.contractsOn ⟨"nil?"⟩ [.nilClass, .object, .kernel]).length = 1 ∧
        (dispatchAt (callFromOutside 0) 0 .external .nil ⟨"check"⟩ ⟨[], []⟩).run space =
          (.ok (.bool true), after) ∧
        (dispatchAt (callFromOutside 0) 0 .external .nil ⟨"check"⟩ ⟨[], []⟩).run
          space.withoutContracts = (.ok (.bool true), bareAfter) ∧
        bareAfter.members = after.members := by
  let inner := Builtin.member (.kernel, "nil?", false, .isNil)
  let outer : Member := ⟨⟨⟨"check"⟩, .object, .publicAccess, .none⟩,
    .script fun _ => .send ⟨"nil?"⟩ ⟨[], []⟩ .finish⟩
  let plain : ObjectSpace := ⟨⟨0⟩, .standard, .initial,
    [(⟨.kernel, ⟨"nil?"⟩⟩, inner), (⟨.object, ⟨"check"⟩⟩, outer)], [], [], [], ⟨1⟩, [], [], []⟩
  let space : ObjectSpace :=
    (plain.registerSignature .object ⟨"check"⟩ ⟨[], [], .truthy⟩).registerSignature
      .kernel ⟨"nil?"⟩ ⟨[], [], .truthy⟩
  have houter : outer.body.IsOblivious := fun _ => ⟨fun _ => trivial, fun _ => trivial⟩
  have hbodies : ∀ key found, space.members.get? key = some found → found.body.IsOblivious := by
    intro key found hfound
    change Table.get? [(⟨.kernel, ⟨"nil?"⟩⟩, inner), (⟨.object, ⟨"check"⟩⟩, outer)] key = _
      at hfound
    rw [Table.get?_cons, Table.get?_cons, Table.get?_nil] at hfound
    split at hfound
    next =>
      cases hfound
      trivial
    next =>
      split at hfound
      next =>
        cases hfound
        exact houter
      next => cases hfound
  have hrun : (dispatchAt (callFromOutside 0) 0 .external .nil ⟨"check"⟩ ⟨[], []⟩).run space =
      (.ok (.bool true), space) := rfl
  obtain ⟨bareAfter, hbare, -, hmembers, -⟩ :=
    contracts_only_reject 0 0 .external .nil ⟨"check"⟩ ⟨[], []⟩ rfl hbodies hrun
  exact ⟨space, space, bareAfter, rfl, rfl, hrun, hbare, hmembers⟩

end CallContract
