import CallContract.Proofs.CallEntry
import CallContract.Proofs.Redefinitions
import CallContract.Proofs.Simulation

/-!
# A call keeps what it began with

A body may change everything that its own call depends on: it may put the member
under other contracts, define it anew, or hide it.  The call that runs the body has
found the definition and taken the signatures before, and is held to them to its end.
What the body changes is there for the next call, also if that is made by the body.
-/

namespace CallContract

/-! ### The end of a call -/

/-- The outcome of a call whose body has come to an end in a space, if it is held to
contracts, the last of them first. -/
structure ObjectSpace.HoldsTo
    (space : ObjectSpace)
    (name : Symbol)
    (contracts : List (ScopeId × Signature))
    (ran outcome : Except CallError Value) : Prop where
  failed : ∀ error, ran = .error error → outcome = .error error
  accepted : ∀ value, ran = .ok value →
    (outcome = .ok value ↔
      ∀ contract ∈ contracts, space.checkResult contract.1 name contract.2 value = .ok ())
  refused : ∀ value violation, ran = .ok value →
    (outcome = .error (.resultType violation) ↔
      FirstFailure (fun contract => space.checkResult contract.1 name contract.2 value)
        contracts.reverse violation)

theorem Activation.outcomeOf_holdsTo
    (activation : Activation) (space : ObjectSpace) (ran : Except CallError Value) :
    space.HoldsTo activation.frame.member activation.contracts ran
      (activation.outcomeOf space ran) where
  failed := by
    rintro error rfl
    rfl
  accepted := by
    rintro value rfl
    have hall : (∀ contract ∈ activation.contracts.reverse,
          space.checkResult contract.1 activation.frame.member contract.2 value = .ok ()) ↔
        ∀ contract ∈ activation.contracts,
          space.checkResult contract.1 activation.frame.member contract.2 value = .ok () := by
      simp only [List.mem_reverse]
    rw [← hall, ← ObjectSpace.checkAllResults_eq_ok_iff, Activation.outcomeOf]
    cases space.checkAllResults activation.frame.member value activation.contracts.reverse with
    | ok passed => simp
    | error error => simp
  refused := by
    rintro value violation rfl
    have hfirst : space.checkAllResults activation.frame.member value
          activation.contracts.reverse = .error (.resultType violation) ↔
        FirstFailure (fun contract =>
          space.checkResult contract.1 activation.frame.member contract.2 value)
            activation.contracts.reverse violation := by
      rw [ObjectSpace.checkAllResults_eq_error_iff]
      simp
    rw [← hfirst, Activation.outcomeOf]
    cases space.checkAllResults activation.frame.member value activation.contracts.reverse with
    | ok passed => simp
    | error error => simp

/-! ### The next call -/

/-- Calls in a space find the definitions, have the access and are held to the
contracts that there are in another one. -/
structure ObjectSpace.CallsFollow (space decisive : ObjectSpace) : Prop where
  begins : ∀ reentries depth invocation activation program after,
    space.BeginsBody reentries depth invocation activation program after ↔
      ∃ way found bound, decisive.Passes depth invocation way found bound ∧
        activation = decisive.activationOn reentries depth invocation way bound ∧
        program = (found.body.begin activation.frame space).1 ∧
        after = (found.body.begin activation.frame space).2
  inaccessible : ∀ reentries depth invocation way found,
    depth < decisive.settings.maxCallDepth →
    decisive.Finds invocation.receiver invocation.member way found →
      (space.FailsAtOnce reentries depth invocation
          (.inaccessible found.definition.name found.definition.visibility
            (decisive.describe invocation.receiver)) ↔
        decisive.mayReach found.definition invocation.mode = false)

namespace ObjectSpace

section Alike

variable {first second : ObjectSpace} (h : first.CallsAlike second) {receiver : Value}
  {name : Symbol} {way : List ScopeId} {found : Member} {bound : Arguments}

include h

theorem CallsAlike.finds :
    second.Finds receiver name way found ↔ first.Finds receiver name way found := by
  unfold Finds FindsAlong ownMember?
  rw [h.scopes, h.members]

theorem CallsAlike.checkersOn : second.checkersOn = first.checkersOn := by
  unfold ObjectSpace.checkersOn ObjectSpace.intercepts layerOf
  rw [h.layers]

theorem CallsAlike.contractsOn : second.contractsOn = first.contractsOn := by
  unfold ObjectSpace.contractsOn
  rw [h.signaturesFor, h.checkersOn]

theorem CallsAlike.passes
    (hdepth : second.settings.maxCallDepth = first.settings.maxCallDepth) {depth : Nat}
    {invocation : Invocation} :
    second.Passes depth invocation way found bound ↔
      first.Passes depth invocation way found bound := by
  constructor
  · rintro ⟨⟨hshallow, hfinds, hreach, hbind⟩, harguments⟩
    rw [ArgumentsPass, h.contractsOn, h.checkArguments] at harguments
    exact ⟨⟨hdepth ▸ hshallow, h.finds.mp hfinds, h.mayReach ▸ hreach, hbind⟩, harguments⟩
  · rintro ⟨⟨hshallow, hfinds, hreach, hbind⟩, harguments⟩
    rw [ArgumentsPass, ← h.contractsOn, ← h.checkArguments] at harguments
    exact ⟨⟨hdepth ▸ hshallow, h.finds.mpr hfinds, h.mayReach ▸ hreach, hbind⟩, harguments⟩

theorem CallsAlike.callsFollow
    (hdepth : second.settings.maxCallDepth = first.settings.maxCallDepth) :
    second.CallsFollow first where
  begins := by
    intro reentries depth invocation activation program after
    simp only [beginsBody_iff, h.passes hdepth, activationOn, h.checkersOn, h.contractsOn]
  inaccessible := by
    intro reentries depth invocation way found hshallow hfinds
    rw [← h.describe, ← h.mayReach]
    exact failsAtOnce_inaccessible_iff (hdepth ▸ hshallow) (h.finds.mpr hfinds)

end Alike

end ObjectSpace

/-! ### A call and the one after it -/

section Snapshot

variable {space : ObjectSpace} {depth : Nat} {invocation : Invocation} {way : List ScopeId}
  {found : Member} {bound : Arguments}

/-- The body that was found is run to its end under the contracts of the way. -/
theorem body_comesTo_its_end
    (reentries depth : Nat) (waiting : List Suspension) (agenda : List Operation)
    {activation : Activation} (hdepth : activation.frame.depth = depth + 1)
    (hreentries : activation.reentries = reentries) (body : Body) (space : ObjectSpace) :
    let begun := body.begin activation.frame space
    let ran := (body.run (.below reentries depth) activation.frame).run space
    ∃ happened, Execution.ComesTo ⟨.running activation begun.1, waiting, agenda, begun.2⟩ happened
      ⟨.running activation (.finish ran.1), waiting, agenda, ran.2⟩ := by
  intro begun ran
  have hcalls : Execution.CallsRight reentries (depth + 1) begun.2.settings.maxCallDepth :=
    Execution.callsRight (Execution.entersRightWithin reentries) _ rfl
  obtain ⟨happened, -, hcomes⟩ := Execution.running_comesTo waiting agenda
    (Execution.entersRightWithin reentries) hcalls hdepth hreentries begun.1 rfl
  rw [Body.begin_run] at hcomes
  exact ⟨happened, hcomes⟩

/-- A call that reaches its body runs the one that was found for it, and is held at
its end to the contracts that its arguments passed, whatever the body and the calls in
it have done to the member meanwhile.  That is not lost: calls after it find what the
operations performed in it have made of definitions and visibilities, and are held to
the contracts that these have put in force. -/
theorem call_keeps_its_contracts
    (hspace : space.IsReachable) (hpasses : space.Passes depth invocation way found bound)
    (reentries : Nat) (waiting : List Suspension) (agenda : List Operation) :
    let activation := space.activationOn reentries depth invocation way bound
    let body := found.body.begin activation.frame space
    let begun : Execution := ⟨.running activation body.1, waiting, agenda, body.2⟩
    let ran := (found.body.run (.below reentries depth) activation.frame).run space
    let ended : Execution := ⟨.running activation (.finish ran.1), waiting, agenda, ran.2⟩
    let called := (invocation.dispatchAt reentries depth).run space
    space.BeginsBody reentries depth invocation activation body.1 body.2 ∧
    (∃ steps happened, begun.after? steps = some (happened, ended) ∧
      ran.2.IsLeftBy space (begun.performed steps)) ∧
    (∃ happening, ended.step? =
      some (happening, ⟨.returning called.1, waiting, agenda, called.2⟩)) ∧
    ran.2.HoldsTo invocation.member (space.contractsOn invocation.member way) ran.1 called.1 ∧
    called.2.CallsFollow ran.2 := by
  intro activation body begun ran ended called
  have hbegun : begun.space.IsReachable :=
    hspace.reaches (found.body.begin_reaches activation.frame space)
  have hbegins : space.BeginsBody reentries depth invocation activation body.1 body.2 :=
    ObjectSpace.beginsBody_iff.mpr ⟨way, found, bound, hpasses, rfl, rfl, rfl⟩
  obtain ⟨happened, steps, hsteps⟩ :=
    body_comesTo_its_end reentries depth waiting agenda
      (show activation.frame.depth = depth + 1 from rfl) rfl found.body space
  have hended : ended.space.IsReachable := hbegun.reaches (Execution.reaches_after? hsteps)
  have hleft : ran.2.IsLeftBy space (begun.performed steps) := by
    obtain ⟨hmembers, hregistrations⟩ := found.body.begin_members activation.frame space
    apply ObjectSpace.isLeftBy_of_registrations hspace.followsRegistrations
      hended.followsRegistrations
    · intro scope name
      rw [← ObjectSpace.ownMember?_of_members hmembers]
      exact Execution.ownMember?_after? hsteps hbegun scope name
    · rw [← hregistrations]
      exact Execution.registrations_after? hsteps
  have hpass : space.checkAllArguments invocation.member bound
      (space.signaturesFor invocation.member (space.checkersOn invocation.member way)) = .ok () :=
    ObjectSpace.checkAllArguments_eq_ok_iff.mpr hpasses.arguments
  have hcalled : called = (activation.outcomeOf ran.2 ran.1,
      ran.2.recordOutcome activation.interceptors activation.frame ran.1.toOption
        (errorOf? (activation.outcomeOf ran.2 ran.1))) :=
    (Invocation.dispatchAt_of_ran (Nat.not_le.mpr hpasses.admits.shallow)
      (ObjectSpace.resolveCall_of_admits hpasses.admits) hpass rfl).1
  refine ⟨hbegins, ⟨steps, happened, hsteps, hleft⟩, ?_, ?_, ?_⟩
  · rw [hcalled]
    exact ⟨_, rfl⟩
  · rw [hcalled]
    exact activation.outcomeOf_holdsTo ran.2 ran.1
  · obtain ⟨entries, hrecorded⟩ := ran.2.recordOutcome_writes_trace activation.interceptors
      activation.frame ran.1.toOption (errorOf? (activation.outcomeOf ran.2 ran.1))
    rw [hcalled, hrecorded]
    exact ObjectSpace.CallsAlike.callsFollow ⟨rfl, rfl, rfl, rfl, rfl⟩ rfl

end Snapshot

/-- A body that puts its own member under a contract that it breaks, and hides the
member behind another definition. -/
def selfHiding : Body :=
  .script fun _ =>
    .perform (.contract .object ⟨"turn"⟩ (.spec (.list []) .nil)) fun _ =>
      .perform (.defineMember .object ⟨"turn"⟩ .privateAccess .none (.builtin .itself)) fun _ =>
        .give (.bool true)

/-- The member with this body, under a contract that its result keeps. -/
def spaceWithSelfHiding : ObjectSpace :=
  let defined := (Operation.defineMember .object ⟨"turn"⟩ .publicAccess .none selfHiding)
    |>.performAtOnce.run ((ObjectSpace.initial ⟨0⟩ .standard []).withRegistry [])
  ((Operation.contract .object ⟨"turn"⟩ (.spec (.list []) .any)).performAtOnce.run defined.2).2

theorem call_keeps_its_contracts_while_hiding_its_member :
    let invocation : Invocation := ⟨.external, .nil, ⟨"turn"⟩, ⟨[], []⟩⟩
    let called := (invocation.dispatchAt 0 0).run spaceWithSelfHiding
    called.1 = .ok (.bool true) ∧
      called.2.FailsAtOnce 0 0 invocation (.inaccessible ⟨"turn"⟩ .privateAccess "nil") := by
  intro invocation called
  let space := spaceWithSelfHiding
  let found : Member := ⟨⟨⟨"turn"⟩, .object, .publicAccess, .none⟩, selfHiding⟩
  have hstart : ((ObjectSpace.initial ⟨0⟩ .standard []).withRegistry []).IsReachable :=
    ⟨[.standard], [], 0, _, rfl, .refl⟩
  have hdefined := hstart.reaches (Operation.performAtOnce_reaches
    (.defineMember .object ⟨"turn"⟩ .publicAccess .none selfHiding) _)
  have hspace : space.IsReachable := hdefined.reaches (Operation.performAtOnce_reaches
    (.contract .object ⟨"turn"⟩ (.spec (.list []) .any)) _)
  have hown : space.ownMember? .object ⟨"turn"⟩ = some found := by
    refine (ObjectSpace.ownMember?_performAtOnce hdefined.wellScoped _ _ _).trans ?_
    refine (ObjectSpace.ownMember?_performAtOnce hstart.wellScoped _ _ _).trans ?_
    rw [Operation.redefine, if_pos ⟨rfl, rfl, by decide +kernel⟩]
  have hfinds : ∀ {state : ObjectSpace} {member : Member},
      state.scopes.lookupChain .nil = [.nilClass, .object, .kernel, .basicObject] →
      (state.ownMember? .nilClass ⟨"turn"⟩).isNone = true →
      state.ownMember? .object ⟨"turn"⟩ = some member →
        state.Finds .nil ⟨"turn"⟩ [.nilClass, .object] member := by
    intro state member hchain hskipped hmember
    refine ⟨[.nilClass], .object, [.kernel, .basicObject], hchain, rfl, fun scope hscope => ?_,
      hmember⟩
    rw [List.mem_singleton.mp hscope]
    exact Option.isNone_iff_eq_none.mp hskipped
  have hok : ∀ {outcome : Except CallError Unit}, outcome.isOk = true → outcome = .ok () := by
    rintro (_ | _) houtcome
    · cases houtcome
    · rfl
  have harguments : space.ArgumentsPass ⟨"turn"⟩ [.nilClass, .object] ⟨[], []⟩ :=
    ObjectSpace.checkAllArguments_eq_ok_iff.mp (hok (by decide +kernel))
  have hpasses : space.Passes 0 invocation [.nilClass, .object] found ⟨[], []⟩ :=
    ⟨⟨by decide +kernel, hfinds (by decide +kernel) (by decide +kernel) hown, rfl, rfl⟩,
      harguments⟩
  obtain ⟨-, -, -, hholds, hfollow⟩ := call_keeps_its_contracts hspace hpasses 0 [] []
  let ran := (selfHiding.run (.below 0 0) ⟨.nil, ⟨"turn"⟩, ⟨[], []⟩, 1⟩).run space
  have hran : ran.1 = .ok (.bool true) := rfl
  have haccepted : ran.2.checkAllResults ⟨"turn"⟩ (.bool true)
      (space.contractsOn ⟨"turn"⟩ [.nilClass, .object]) = .ok () := hok (by decide +kernel)
  have hhidden : (ran.2.ownMember? .object ⟨"turn"⟩).map (·.definition) =
      some ⟨⟨"turn"⟩, .object, .privateAccess, .none⟩ := by decide +kernel
  obtain ⟨hidden, hmember, hdefinition⟩ := Option.map_eq_some_iff.mp hhidden
  have hreach : ran.2.mayReach hidden.definition .external = false := by
    rw [hdefinition]
    rfl
  have hrefused := (hfollow.inaccessible 0 0 invocation [.nilClass, .object] hidden
    (by decide +kernel) (hfinds (by decide +kernel) (by decide +kernel) hmember)).mpr hreach
  rw [hdefinition] at hrefused
  refine ⟨(hholds.accepted _ hran).mpr ?_, hrefused⟩
  exact ObjectSpace.checkAllResults_eq_ok_iff.mp haccepted

end CallContract
