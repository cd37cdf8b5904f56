import CallContract.Proofs.CallEntry
import CallContract.Proofs.Redefinitions
import CallContract.Proofs.NativeBehaviour
import CallContract.Proofs.TypeMembership

/-!
# What a value answers publicly

A value responds to a member if the nearest definition on its lookup chain is public.
Descriptors that ask for the capability, the built-in question and calls from outside
all look for that definition, and none of them looks further if it is not public.
A contract may refuse a call and a body may fail, but both come after the search.
-/

namespace CallContract.ObjectSpace

/-! ### How far a call gets -/

/-- What a call finds is open to it. -/
def IsOpenTo
    (space : ObjectSpace)
    (mode : CallMode)
    (receiver : Value)
    (name : Symbol) : Prop :=
  ∃ way found, space.Finds receiver name way found ∧
    space.mayReach found.definition mode = true

/-- A call that ends in its first step because nothing is found or what is found is
not open to it.  An error of this kind may also come out of a body, in a later step. -/
def TurnsAway
    (space : ObjectSpace)
    (reentries depth : Nat)
    (invocation : Invocation) : Prop :=
  ∃ error : CallError, error.isNoMethod = true ∧
    space.FailsAtOnce reentries depth invocation error

/-- A call that a contract refuses in its first step, so that no body is run. -/
def RefusesArguments
    (space : ObjectSpace)
    (reentries depth : Nat)
    (invocation : Invocation)
    (violation : ArgumentViolation) : Prop :=
  ∃ (call : CheckedCall) (after : ObjectSpace), call.ran = none ∧ ∀ waiting agenda,
    Execution.step? ⟨.calling reentries depth invocation, waiting, agenda, space⟩ =
      some ([.dispatched space reentries depth invocation, .completed call],
        ⟨.returning (.error (.argumentType violation)), waiting, agenda, after⟩)

/-- A call that gets past the search and the control of access: its arguments cannot
be bound, or they are refused by a contract, or its body begins. -/
inductive LetsIn
    (space : ObjectSpace) (reentries depth : Nat) (invocation : Invocation) : Prop
  | unbound {error : BindError}
      (hfails : space.FailsAtOnce reentries depth invocation
        (.binding invocation.member error))
  | refused {violation : ArgumentViolation}
      (hrefused : space.RefusesArguments reentries depth invocation violation)
  | begun {activation : Activation} {program : Program} {after : ObjectSpace}
      (hbegins : space.BeginsBody reentries depth invocation activation program after)

variable {space after : ObjectSpace} {reentries depth : Nat} {invocation : Invocation}
  {receiver : Value} {name : Symbol}

theorem isOpenTo_of_resolveCall
    {found : Resolution} {bound : Arguments}
    (hresolve : space.resolveCall invocation.mode invocation.receiver invocation.member
      invocation.arguments = .ok (found, bound)) :
    space.IsOpenTo invocation.mode invocation.receiver invocation.member := by
  obtain ⟨way, hfinds, -, hreach, -⟩ := resolveCall_eq_ok_iff.mp hresolve
  exact ⟨way, found.member, hfinds, hreach⟩

/-- Arguments are bound only for a member that has been found and is open. -/
theorem isOpenTo_of_resolveCall_unbound
    {cause : BindError}
    (hresolve : space.resolveCall invocation.mode invocation.receiver invocation.member
      invocation.arguments = .error (.binding invocation.member cause)) :
    space.IsOpenTo invocation.mode invocation.receiver invocation.member := by
  unfold resolveCall at hresolve
  cases hfound : space.resolve? invocation.receiver invocation.member with
  | none => simp [hfound] at hresolve
  | some found =>
      obtain ⟨way, hfinds, -⟩ := resolve?_eq_some_iff.mp hfound
      refine ⟨way, found.member, hfinds, ?_⟩
      by_contra hclosed
      simp [hfound, hclosed] at hresolve

/-- An error in the first step of a call of an open member is one of binding. -/
theorem resolveCall_eq_error_of_isOpenTo
    {error : CallError}
    (hopen : space.IsOpenTo invocation.mode invocation.receiver invocation.member)
    (hresolve : space.resolveCall invocation.mode invocation.receiver invocation.member
      invocation.arguments = .error error) :
    ∃ cause, error = .binding invocation.member cause := by
  obtain ⟨way, found, hfinds, hreach⟩ := hopen
  simp only [resolveCall, resolve?_of_finds hfinds, hreach, if_true] at hresolve
  split at hresolve
  next => cases hresolve
  next cause _ => exact ⟨cause, (Except.error.inj hresolve).symm⟩

theorem isOpenTo_of_refusesArguments
    {violation : ArgumentViolation}
    (h : space.RefusesArguments reentries depth invocation violation) :
    space.IsOpenTo invocation.mode invocation.receiver invocation.member := by
  obtain ⟨call, after, -, hstep⟩ := h
  have hstep := Execution.step_of_step? (hstep [] [])
  generalize hhappening :
    [Happening.dispatched space reentries depth invocation, .completed call] = happening at hstep
  cases hstep with
  | refuse => cases hhappening
  | refuseArguments _ hresolve => exact isOpenTo_of_resolveCall hresolve

theorem refusesArguments_of_admits
    {way : List ScopeId} {found : Member} {bound : Arguments} {violation : ArgumentViolation}
    (hadmits : space.Admits depth invocation.mode invocation.receiver invocation.member
      invocation.arguments way found bound)
    (hrefused : space.checkAllArguments invocation.member bound
      (space.contractsOn invocation.member way) = .error (.argumentType violation)) :
    space.RefusesArguments reentries depth invocation violation := by
  let interceptors := space.checkersOn invocation.member way
  let activation := Activation.ofCall space reentries depth invocation interceptors bound
  have hcontracts : space.checkAllArguments invocation.member bound activation.contracts =
      .error (.argumentType violation) := hrefused
  have hstep : ∀ waiting agenda,
      Execution.step? ⟨.calling reentries depth invocation, waiting, agenda, space⟩ =
        some (.dispatched space reentries depth invocation ::
            Happening.ofCall? (activation.checkedCall? none (.error (.argumentType violation))),
          ⟨.returning (.error (.argumentType violation)), waiting, agenda,
            space.recordOutcome interceptors activation.frame none
              (some (.argumentType violation))⟩) := by
    intro waiting agenda
    simp only [Execution.step?, Execution.decide, if_neg (Nat.not_le.mpr hadmits.shallow),
      resolveCall_of_admits hadmits]
    simp only [interceptors, activation] at hcontracts
    simp only [hcontracts]
    rfl
  cases hinterceptors : interceptors with
  | nil =>
      -- without a scope that intercepts the call there is no contract to refuse it
      have hnone : activation.contracts = [] := by
        simp only [activation, Activation.ofCall, hinterceptors, signaturesFor,
          List.filterMap_nil]
      rw [hnone] at hcontracts
      cases hcontracts
  | cons nearest farther =>
      have hcall : activation.checkedCall? none (.error (.argumentType violation)) =
          some ⟨nearest, activation.frame, none, .error (.argumentType violation)⟩ := by
        simp only [activation, Activation.checkedCall?, Activation.ofCall, hinterceptors,
          List.head?_cons, Option.map_some]
      simp only [hcall] at hstep
      exact ⟨_, _, rfl, hstep⟩

section Shallow

variable (hshallow : depth < space.settings.maxCallDepth)

include hshallow

theorem letsIn_iff_isOpenTo :
    space.LetsIn reentries depth invocation ↔
      space.IsOpenTo invocation.mode invocation.receiver invocation.member := by
  constructor
  · intro hlets
    cases hlets with
    | unbound hfails =>
        exact isOpenTo_of_resolveCall_unbound ((failsAtOnce_iff hshallow).mp hfails)
    | refused hrefused => exact isOpenTo_of_refusesArguments hrefused
    | begun hbegins =>
        obtain ⟨way, found, bound, hpasses, -⟩ := beginsBody_iff.mp hbegins
        exact ⟨way, found, hpasses.admits.finds, hpasses.admits.accessible⟩
  · rintro ⟨way, found, hfinds, hreach⟩
    cases hbind : found.definition.parameters.bind invocation.arguments with
    | error error =>
        exact .unbound ((failsAtOnce_iff hshallow).mpr (resolveCall_of_unbound hfinds hreach hbind))
    | ok bound =>
        have hadmits : space.Admits depth invocation.mode invocation.receiver invocation.member
            invocation.arguments way found bound := ⟨hshallow, hfinds, hreach, hbind⟩
        cases hchecked : space.checkAllArguments invocation.member bound
            (space.contractsOn invocation.member way) with
        | error error =>
            obtain ⟨violation, -, rfl⟩ := checkAllArguments_eq_error_iff.mp hchecked
            exact .refused (refusesArguments_of_admits hadmits hchecked)
        | ok =>
            have hpasses : space.Passes depth invocation way found bound :=
              ⟨hadmits, checkAllArguments_eq_ok_iff.mp hchecked⟩
            exact .begun (beginsBody_iff.mpr ⟨way, found, bound, hpasses, rfl, rfl, rfl⟩)

theorem turnsAway_iff_not_isOpenTo :
    space.TurnsAway reentries depth invocation ↔
      ¬ space.IsOpenTo invocation.mode invocation.receiver invocation.member := by
  constructor
  · rintro ⟨error, hkind, hfails⟩ hopen
    obtain ⟨cause, rfl⟩ :=
      resolveCall_eq_error_of_isOpenTo hopen ((failsAtOnce_iff hshallow).mp hfails)
    cases hkind
  · intro hclosed
    cases hfound : space.resolve? invocation.receiver invocation.member with
    | none => exact ⟨_, rfl, (failsAtOnce_noMethod_iff hshallow reentries invocation).mpr hfound⟩
    | some found =>
        obtain ⟨way, hfinds, -⟩ := resolve?_eq_some_iff.mp hfound
        have hreach : space.mayReach found.member.definition invocation.mode = false := by
          by_contra hreach
          exact hclosed ⟨way, found.member, hfinds, by simpa using hreach⟩
        exact ⟨_, rfl, (failsAtOnce_inaccessible_iff hshallow hfinds).mpr hreach⟩

end Shallow

/-! ### What the answer depends on -/

theorem respondsTo_iff_isOpenTo :
    space.respondsTo receiver name = true ↔ space.IsOpenTo .external receiver name := by
  simp only [respondsTo, Option.any_eq_true, IsOpenTo, mayReach]
  constructor
  · rintro ⟨found, hfound, hpublic⟩
    obtain ⟨way, hfinds, -⟩ := resolve?_eq_some_iff.mp hfound
    exact ⟨way, found.member, hfinds, hpublic⟩
  · rintro ⟨way, found, hfinds, hpublic⟩
    exact ⟨_, resolve?_of_finds hfinds, hpublic⟩

/-- A receiver for which the built-in question is found, and no contract on the way. -/
structure AsksNatively
    (space : ObjectSpace)
    (receiver : Value)
    (way : List ScopeId)
    (found : Member) : Prop where
  finds : space.Finds receiver ⟨"respond_to?"⟩ way found
  body : found.body = .builtin .respondsTo
  parameters : found.definition.parameters = Builtin.parameters true
  unchecked : space.checkersOn ⟨"respond_to?"⟩ way = []

theorem dispatchAt_respondsTo
    {way : List ScopeId} {found : Member} {mode : CallMode} {question : Value}
    (hasks : space.AsksNatively receiver way found)
    (hshallow : depth < space.settings.maxCallDepth)
    (hreach : space.mayReach found.definition mode = true) :
    (dispatchAt (callFromOutside reentries) depth mode receiver ⟨"respond_to?"⟩
        ⟨[question], []⟩).run space =
      (space.answerRespondsTo receiver question, space) := by
  have hbind : found.definition.parameters.bind ⟨[question], []⟩ = .ok ⟨[question], []⟩ := by
    rw [hasks.parameters]
    rfl
  rw [dispatchAt_of_admits ⟨hshallow, hasks.finds, hreach, hbind⟩, hasks.unchecked,
    runChecked_nil, hasks.body]
  have hargument : (Frame.mk receiver ⟨"respond_to?"⟩ ⟨[question], []⟩ (depth + 1)).argument 0 =
      question := rfl
  simp only [Body.run, Action.step, ExceptT.run_mk, Builtin.run, hargument]
  cases space.answerRespondsTo receiver question <;> rfl

/-! ### What an operation makes of the answer -/

/-- The answers of a value to a question for a member, in all the forms in which it can
be put, and what they say of calls from outside that are not too deep. -/
structure CapabilityAgrees (space : ObjectSpace) (receiver : Value) (name : Symbol) : Prop where
  nearest : space.respondsTo receiver name = true ↔
    ∃ way found, space.Finds receiver name way found ∧
      found.definition.visibility = .publicAccess
  described : space.accepts (.respondsTo name) receiver = space.respondsTo receiver name
  answered : ∀ way found, space.AsksNatively receiver way found →
    ∀ reentries depth mode, depth < space.settings.maxCallDepth →
      space.mayReach found.definition mode = true →
        ∀ question ∈ [Value.symbol name, Value.text name.name],
          (dispatchAt (callFromOutside reentries) depth mode receiver ⟨"respond_to?"⟩
              ⟨[question], []⟩).run space =
            (.ok (.bool (space.respondsTo receiver name)), space)
  letsIn : ∀ reentries depth arguments, depth < space.settings.maxCallDepth →
    (space.LetsIn reentries depth ⟨.external, receiver, name, arguments⟩ ↔
      space.respondsTo receiver name = true)
  turnsAway : ∀ reentries depth arguments, depth < space.settings.maxCallDepth →
    (space.TurnsAway reentries depth ⟨.external, receiver, name, arguments⟩ ↔
      space.respondsTo receiver name = false)

theorem capabilityAgrees (space : ObjectSpace) (receiver : Value) (name : Symbol) :
    space.CapabilityAgrees receiver name where
  nearest := by
    rw [respondsTo_iff_isOpenTo]
    simp only [IsOpenTo, mayReach, beq_iff_eq]
  described := by
    rw [accepts, Descriptor.accepts]
    rfl
  answered := by
    intro way found hasks reentries depth mode hshallow hreach question hquestion
    rw [dispatchAt_respondsTo hasks hshallow hreach]
    simp only [List.mem_cons, List.not_mem_nil, or_false] at hquestion
    cases hquestion with
    | inl hsymbol =>
        rw [hsymbol]
        rfl
    | inr htext =>
        rw [htext]
        rfl
  letsIn := fun _ _ _ hshallow =>
    (letsIn_iff_isOpenTo hshallow).trans respondsTo_iff_isOpenTo.symm
  turnsAway := by
    intro reentries depth arguments hshallow
    rw [turnsAway_iff_not_isOpenTo hshallow, ← respondsTo_iff_isOpenTo, Bool.not_eq_true]

theorem scopes_performAtOnce_setVisibility
    (scope : ScopeId) (name : Symbol) (visibility : Visibility) :
    ((Operation.setVisibility scope name visibility).performAtOnce.run space).2.scopes =
      space.scopes := by
  rw [Operation.performAtOnce, Operation.perform_eq_inSteps, Operation.inSteps,
    Action.run_change, Action.silently, setVisibility]
  cases space.ownMember? scope name <;> rfl

theorem scopes_performAtOnce_defineMember
    (scope : ScopeId) (name : Symbol) (visibility : Visibility) (parameters : Parameters)
    (body : Body) :
    ((Operation.defineMember scope name visibility parameters body).performAtOnce.run
      space).2.scopes = space.scopes := by
  rw [Operation.performAtOnce, Operation.perform_eq_inSteps, Operation.inSteps,
    Action.run_change]
  cases hdefined : space.defineMember scope name visibility parameters body with
  | error error => rfl
  | ok result =>
      obtain ⟨⟨⟩, -, hpair⟩ := bind_eq_ok_iff.mp hdefined
      cases hpair
      exact consumePending_scopes scope name

/-- A definition decides once it is the only one up to its place on the lookup chain. -/
theorem respondsTo_of_made
    {skipped rest : List ScopeId} {owner : ScopeId} (made : Member)
    (hchain : after.scopes.lookupChain receiver = skipped ++ owner :: rest)
    (hskipped : ∀ scope ∈ skipped,
      after.ownMember? scope name = none ∨ after.ownMember? scope name = some made)
    (hmade : after.ownMember? owner name = some made) :
    after.respondsTo receiver name = (made.definition.visibility == .publicAccess) := by
  have hfound : after.found? receiver name = some made := by
    rw [found?, hchain]
    clear hchain
    induction skipped with
    | nil => simp [hmade]
    | cons scope skipped ih =>
        have hrest := ih fun other hother => hskipped other (List.mem_cons_of_mem scope hother)
        cases hskipped scope List.mem_cons_self with
        | inl hnone => simpa [hnone] using hrest
        | inr hsame => simp [hsame]
  rw [respondsTo_eq_found?, hfound, Option.any_some]

theorem respondsTo_setVisibility
    {way : List ScopeId} {found : Member} {owner : ScopeId}
    (hfinds : space.Finds receiver name way found) (howner : way.getLast? = some owner)
    (visibility : Visibility) :
    (space.perform (.setVisibility owner name visibility)).2.respondsTo receiver name =
      (visibility == .publicAccess) := by
  obtain ⟨skipped, last, rest, hchain, rfl, hskipped, hown⟩ := hfinds
  rw [List.getLast?_concat, Option.some.injEq] at howner
  subst howner
  let operation := Operation.setVisibility last name visibility
  change (operation.performAtOnce.run space).2.respondsTo receiver name = _
  rw [← scopes_performAtOnce_setVisibility last name visibility] at hchain
  refine respondsTo_of_made (found.withVisibility visibility) hchain ?_ ?_
  · intro scope hscope
    rw [ownMember?_setVisibility, Operation.redefine, hskipped scope hscope]
    exact .inl (by simp)
  · rw [ownMember?_setVisibility, Operation.redefine, hown]
    simp

theorem respondsTo_defineMember
    {skipped rest : List ScopeId} {owner : ScopeId}
    (hchain : space.scopes.lookupChain receiver = skipped ++ owner :: rest)
    (hskipped : ∀ scope ∈ skipped, space.ownMember? scope name = none)
    (hhas : space.scopes.Has owner)
    (visibility : Visibility) (parameters : Parameters) (body : Body) :
    (space.perform (.defineMember owner name visibility parameters body)).2.respondsTo
      receiver name = (visibility == .publicAccess) := by
  let operation := Operation.defineMember owner name visibility parameters body
  change (operation.performAtOnce.run space).2.respondsTo receiver name = _
  rw [← scopes_performAtOnce_defineMember owner name visibility parameters body] at hchain
  refine respondsTo_of_made ⟨⟨name, owner, visibility, parameters⟩, body⟩ hchain ?_ ?_
  · intro scope hscope
    rw [ownMember?_defineMember, Operation.redefine, hskipped scope hscope]
    by_cases hsame : owner = scope
    · subst hsame
      exact .inr (by simp [hhas])
    · exact .inl (by simp [hsame])
  · rw [ownMember?_defineMember, Operation.redefine]
    simp [hhas]

theorem respondsTo_of_contract
    (hspace : space.IsReachable) {operation : Operation} (hcontract : operation.PutsUnderContract)
    {response : Response} (hperform : space.perform operation = (.ok response, after)) :
    after.respondsTo receiver name = space.respondsTo receiver name := by
  obtain ⟨signature, -, scope, member, middle, hprovides, rfl, -⟩ :=
    putsOn_of_perform hcontract hperform
  have hmiddle := hspace.wellScoped.agreesNatively_of_provides hprovides
  exact (hmiddle.registerSignature scope member signature).respondsTo receiver name

/-- In every object space, a public capability is the capability to be called: a value
responds to a member, matches the descriptor for it and is reported by the built-in
question to respond to it exactly if a call from outside gets past the search and the
control of access.  A change of visibility at the nearest definition decides the
answer, as does a definition in front of it; a contract never changes it. -/
theorem public_capability_is_callability
    (hspace : space.IsReachable) (receiver : Value) (name : Symbol) :
    space.CapabilityAgrees receiver name ∧
    (∀ way found owner, space.Finds receiver name way found → way.getLast? = some owner →
      ∀ visibility,
        (space.perform (.setVisibility owner name visibility)).2.respondsTo receiver name =
          (visibility == .publicAccess)) ∧
    (∀ skipped owner rest, space.scopes.lookupChain receiver = skipped ++ owner :: rest →
      (∀ scope ∈ skipped, space.ownMember? scope name = none) →
        ∀ visibility parameters body,
          (space.perform (.defineMember owner name visibility parameters body)).2.respondsTo
            receiver name = (visibility == .publicAccess)) ∧
    (∀ operation : Operation, operation.PutsUnderContract → ∀ response after,
      space.perform operation = (.ok response, after) →
        after.respondsTo receiver name = space.respondsTo receiver name) := by
  refine ⟨capabilityAgrees space receiver name, ?_, ?_, ?_⟩
  · intro way found owner hfinds howner visibility
    exact respondsTo_setVisibility hfinds howner visibility
  · intro skipped owner rest hchain hskipped visibility parameters body
    have hhas : space.scopes.Has owner := by
      apply ScopeTable.has_of_mem_lookupChain hspace.wellScoped.formed
      rw [hchain]
      exact List.mem_append_right skipped List.mem_cons_self
    exact respondsTo_defineMember hchain hskipped hhas visibility parameters body
  · intro operation hcontract response after hperform
    exact respondsTo_of_contract hspace hcontract hperform

/-- A class that hides a member which its objects would inherit. -/
def shutGate : List Operation :=
  [.defineClass "Gate" none, .newObject ⟨17⟩,
    .defineMember .object ⟨"open"⟩ .publicAccess .none (.reader "open"),
    .defineMember ⟨17⟩ ⟨"open"⟩ .privateAccess .none (.reader "open")]

theorem public_capability_is_callability_at_a_shut_gate :
    ∃ (space : ObjectSpace) (receiver : Value),
      (space.ownMember? .object ⟨"open"⟩).any
          (fun member => member.definition.visibility == .publicAccess) = true ∧
      space.respondsTo receiver ⟨"open"⟩ = false ∧
      space.TurnsAway 0 0 ⟨.external, receiver, ⟨"open"⟩, ⟨[], []⟩⟩ ∧
      (dispatchAt (callFromOutside 0) 0 .external receiver ⟨"respond_to?"⟩
          ⟨[.symbol ⟨"open"⟩], []⟩).run space = (.ok (.bool false), space) ∧
      (space.perform (.setVisibility ⟨17⟩ ⟨"open"⟩ .publicAccess)).2.respondsTo receiver
          ⟨"open"⟩ = true := by
  let start := (ObjectSpace.initial ⟨0⟩ .standard []).withRegistry []
  let space := start.afterAll shutGate
  let receiver : Value := .object ⟨⟨1⟩, ⟨17⟩⟩
  let isQuestion : Member → Bool := fun member =>
    match member.body with
    | .builtin .respondsTo =>
        member.definition.parameters == Builtin.parameters true &&
          member.definition.visibility == .publicAccess
    | _ => false
  have hspace : space.IsReachable := ⟨[.standard], [], 0, start, rfl, start.reaches_afterAll _⟩
  have hshallow : 0 < space.settings.maxCallDepth := by decide +kernel
  have hinherited : (space.ownMember? .object ⟨"open"⟩).any
      (fun member => member.definition.visibility == .publicAccess) = true := by decide +kernel
  have hhidden : space.respondsTo receiver ⟨"open"⟩ = false := by decide +kernel
  have hchain : space.scopes.lookupChain receiver = [⟨17⟩, .object, .kernel, .basicObject] := by
    decide +kernel
  have hown : (space.ownMember? ⟨17⟩ ⟨"open"⟩).isSome = true := by decide +kernel
  have hskipped : ∀ scope ∈ [⟨17⟩, ScopeId.object],
      (space.ownMember? scope ⟨"respond_to?"⟩).isNone = true := by decide +kernel
  have hquestion : (space.ownMember? .kernel ⟨"respond_to?"⟩).any isQuestion = true := by
    decide +kernel
  have hunchecked : space.checkersOn ⟨"respond_to?"⟩ [⟨17⟩, .object, .kernel] = [] := by
    decide +kernel
  clear_value space receiver
  obtain ⟨found, hfound, htold⟩ := Option.any_eq_true _ _ |>.mp hquestion
  have hfinds : space.Finds receiver ⟨"respond_to?"⟩ [⟨17⟩, .object, .kernel] found :=
    ⟨[⟨17⟩, .object], .kernel, [.basicObject], hchain, rfl,
      fun scope hscope => Option.isNone_iff_eq_none.mp (hskipped scope hscope), hfound⟩
  have htells : found.body = .builtin .respondsTo ∧
      found.definition.parameters = Builtin.parameters true ∧
        found.definition.visibility = .publicAccess := by
    simp only [isQuestion] at htold
    split at htold
    next hbody => simpa [hbody] using htold
    next => cases htold
  obtain ⟨hbody, hparameters, hpublic⟩ := htells
  have hreach : space.mayReach found.definition .external = true := by
    rw [mayReach, hpublic]
    rfl
  obtain ⟨member, hmember⟩ := Option.isSome_iff_exists.mp hown
  have hhides : space.Finds receiver ⟨"open"⟩ [⟨17⟩] member :=
    ⟨[], ⟨17⟩, [.object, .kernel, .basicObject], hchain, rfl, by simp, hmember⟩
  obtain ⟨hagrees, hset, -⟩ := public_capability_is_callability hspace receiver ⟨"open"⟩
  have hasked := hagrees.answered _ found ⟨hfinds, hbody, hparameters, hunchecked⟩ 0 0 .external
    hshallow hreach (.symbol ⟨"open"⟩) List.mem_cons_self
  rw [hhidden] at hasked
  exact ⟨space, receiver, hinherited, hhidden,
    (hagrees.turnsAway 0 0 ⟨[], []⟩ hshallow).mpr hhidden, hasked,
    hset [⟨17⟩] member ⟨17⟩ hhides rfl .publicAccess⟩

end CallContract.ObjectSpace
