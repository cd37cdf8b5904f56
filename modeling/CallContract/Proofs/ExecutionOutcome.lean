import CallContract.Proofs.CallDecision
import CallContract.Proofs.DeclarationOrder
import CallContract.Proofs.Execution

/-!
# What executions come to

Every call comes to the outcome that dispatch has for it and leaves the object space
that dispatch leaves, and operations that are performed one after the other come to
what they come to at once.  Nothing bounds the steps of an execution, so in
particular every execution ends.

What is told on the way is a whole history: every call that is dispatched is followed
by all that happens inside it and then, if it went through checks, by its completion.
-/

namespace CallContract

/-! ### What executions come to -/

theorem Operation.perform_of_call
    {operation : Operation} {invocation : Invocation} (h : operation.asCall? = some invocation)
    (fromOutside : OutsideCalls) :
    operation.perform fromOutside =
      (fromOutside invocation.mode invocation.receiver invocation.member
        invocation.arguments).respond id .value := by
  cases operation with
  | call | send =>
      cases h
      rfl
  | _ => cases h

theorem Operation.perform_of_no_call
    {operation : Operation} (h : operation.asCall? = none)
    (fromOutside : OutsideCalls) :
    operation.perform fromOutside = operation.performAtOnce := by
  cases operation with
  | call | send => cases h
  | _ => rfl

/-- A call from outside, with a number of others allowed inside it. -/
theorem Operation.perform_call_run
    {operation : Operation} {invocation : Invocation} (h : operation.asCall? = some invocation)
    (reentries : Nat) (space : ObjectSpace) :
    (operation.perform (callFromOutside (reentries + 1))).run space =
      (answerTo ((invocation.dispatchAt reentries 0).run space).1,
        ((invocation.dispatchAt reentries 0).run space).2) := by
  rw [perform_of_call h]
  change ((((invocation.dispatchAt reentries 0).respond Failure.call id).respond id
    Response.value).run space) = _
  simp only [Action.respond, Action.run_handle]
  cases ((invocation.dispatchAt reentries 0).run space).1 <;> rfl

theorem Operation.perform_cutOff_run
    {operation : Operation} {invocation : Invocation} (h : operation.asCall? = some invocation)
    (space : ObjectSpace) :
    (operation.perform (callFromOutside 0)).run space = (.error .cutOff, space) := by
  rw [perform_of_call h]
  rfl

theorem Body.begin_run
    (reentry : Reentry) (body : Body) (frame : Frame) (space : ObjectSpace) :
    ((body.begin frame space).1.run reentry frame).run (body.begin frame space).2 =
      (body.run reentry frame).run space := by
  cases body <;> rfl

/-- What a body does at once writes nothing but instance variables. -/
theorem Body.begin_writes_variables (body : Body) (frame : Frame) (space : ObjectSpace) :
    ∃ values, (body.begin frame space).2 = { space with variableValues := values } := by
  cases body with
  | script program => exact ⟨_, rfl⟩
  | reader name => exact ⟨_, rfl⟩
  | builtin operation =>
      simp only [Body.begin, Body.run, Action.step, ExceptT.run_mk]
      cases operation.run space frame <;> exact ⟨_, rfl⟩
  | writer name =>
      simp only [Body.begin, Body.run, Action.step, ExceptT.run_mk, ObjectSpace.writeVariable]
      cases frame.receiver.attachment? <;> exact ⟨_, rfl⟩

theorem Body.begin_reaches (body : Body) (frame : Frame) (space : ObjectSpace) :
    space.Reaches (body.begin frame space).2 := by
  have hexhausted : Reentry.Reaches .exhausted :=
    ⟨dispatch_reaches (callFromOutside_reaches 0) 0 0, callFromOutside_reaches 0⟩
  have hrun := Body.run_reaches hexhausted frame body space
  cases body with
  | script program => exact .refl
  | _ => exact hrun

theorem Operation.performAtOnce_reaches (operation : Operation) :
    operation.performAtOnce.Reaches :=
  operation.perform_reaches (callFromOutside_reaches 0)

theorem Execution.Step.reaches
    {now next : Execution} {happening : List Happening} (hstep : Step now happening next) :
    now.space.Reaches next.space := by
  cases hstep with
  | takeUp | perform => exact Operation.performAtOnce_reaches _ _
  | begin => exact Body.begin_reaches _ _ _
  | refuseArguments | finish => exact ObjectSpace.recordOutcome_reaches _ _ _ _ _
  | _ => exact .refl

theorem Execution.Step.settings
    {now next : Execution} {happening : List Happening} (hstep : Step now happening next) :
    next.space.settings = now.space.settings :=
  hstep.reaches.fixed.2

section Admitted

variable {space : ObjectSpace} {reentries depth : Nat} {invocation : Invocation}

/-- The checked call that a dispatch is, if it passes resolution, access and binding
and some scope intercepts it: its body is run if the arguments pass. -/
def ObjectSpace.checkedCall?
    (space : ObjectSpace)
    (reentries depth : Nat)
    (invocation : Invocation) : Option CheckedCall :=
  if space.settings.maxCallDepth ≤ depth then none
  else
    match space.resolveCall invocation.mode invocation.receiver invocation.member
        invocation.arguments with
    | .error _ => none
    | .ok (found, bound) =>
        let frame : Frame := ⟨invocation.receiver, invocation.member, bound, depth + 1⟩
        found.interceptors.head?.map fun nearest =>
          { nearest := nearest
            frame := frame
            ran :=
              match space.checkAllArguments invocation.member bound
                  (space.signaturesFor invocation.member found.interceptors) with
              | .error _ => none
              | .ok () => some ((found.member.body.run (.below reentries depth) frame).run space).1
            outcome := ((invocation.dispatchAt reentries depth).run space).1 }

/-- An admitted call whose arguments are refused. -/
theorem Invocation.dispatchAt_of_refused
    (reentries : Nat) {found : ObjectSpace.Resolution} {bound : Arguments} {error : CallError}
    (hshallow : ¬ space.settings.maxCallDepth ≤ depth)
    (hresolve : space.resolveCall invocation.mode invocation.receiver invocation.member
      invocation.arguments = .ok (found, bound))
    (hrefused : space.checkAllArguments invocation.member bound
      (space.signaturesFor invocation.member found.interceptors) = .error error) :
    let activation := Activation.ofCall space reentries depth invocation found.interceptors bound
    (invocation.dispatchAt reentries depth).run space =
        (.error error, space.recordOutcome activation.interceptors activation.frame none
          (some error)) ∧
      space.checkedCall? reentries depth invocation =
        activation.checkedCall? none (.error error) := by
  have hrun : (invocation.dispatchAt reentries depth).run space = (.error error,
      space.recordOutcome found.interceptors
        ⟨invocation.receiver, invocation.member, bound, depth + 1⟩ none (some error)) := by
    rw [dispatchAt, dispatchAt_run, if_neg hshallow, hresolve]
    exact runChecked_of_arguments_refused hrefused
  refine ⟨hrun, ?_⟩
  simp only [ObjectSpace.checkedCall?, if_neg hshallow, hresolve, hrefused, hrun]
  rfl

/-- An admitted call whose arguments pass, and whose body comes to something. -/
theorem Invocation.dispatchAt_of_ran
    {found : ObjectSpace.Resolution} {bound : Arguments} {ran : Except CallError Value}
    {middle : ObjectSpace}
    (hshallow : ¬ space.settings.maxCallDepth ≤ depth)
    (hresolve : space.resolveCall invocation.mode invocation.receiver invocation.member
      invocation.arguments = .ok (found, bound))
    (hpass : space.checkAllArguments invocation.member bound
      (space.signaturesFor invocation.member found.interceptors) = .ok ())
    (hbody : (found.member.body.run (.below reentries depth)
      ⟨invocation.receiver, invocation.member, bound, depth + 1⟩).run space = (ran, middle)) :
    let activation := Activation.ofCall space reentries depth invocation found.interceptors bound
    (invocation.dispatchAt reentries depth).run space =
        (activation.outcomeOf middle ran,
          middle.recordOutcome activation.interceptors activation.frame ran.toOption
            (errorOf? (activation.outcomeOf middle ran))) ∧
      space.checkedCall? reentries depth invocation =
        activation.checkedCall? (some ran) (activation.outcomeOf middle ran) := by
  intro activation
  have hrun : (invocation.dispatchAt reentries depth).run space =
      (activation.outcomeOf middle ran,
        middle.recordOutcome activation.interceptors activation.frame ran.toOption
          (errorOf? (activation.outcomeOf middle ran))) := by
    rw [dispatchAt, dispatchAt_run, if_neg hshallow, hresolve]
    cases ran with
    | error error => exact runChecked_of_body_failed hpass hbody
    | ok value =>
        simp only [Activation.outcomeOf]
        cases hresult : middle.checkAllResults activation.frame.member value
            activation.contracts.reverse with
        | error error => exact runChecked_of_result_refused hpass hbody hresult
        | ok passed => exact runChecked_of_returned hpass hbody hresult
  refine ⟨hrun, ?_⟩
  simp only [ObjectSpace.checkedCall?, if_neg hshallow, hresolve, hpass, hbody, hrun]
  rfl

end Admitted

/-! ### Whole histories -/

/-- A history that tells of no call without telling of its end: what happens inside a
call comes between its dispatch and its completion. -/
inductive IsWhole : List Happening → Prop
  | nothing : IsWhole []
  | cleared {rest : List Happening} (hrest : IsWhole rest) : IsWhole (.cleared :: rest)
  | dispatched {space : ObjectSpace} {reentries depth : Nat} {invocation : Invocation}
      {inner rest : List Happening} (hinner : IsWhole inner) (hrest : IsWhole rest) :
      IsWhole (.dispatched space reentries depth invocation :: (inner ++
        (Happening.ofCall? (space.checkedCall? reentries depth invocation) ++ rest)))

theorem IsWhole.append
    {first later : List Happening} (hfirst : IsWhole first) (hlater : IsWhole later) :
    IsWhole (first ++ later) := by
  induction hfirst with
  | nothing => exact hlater
  | cleared _ ih => exact .cleared ih
  | @dispatched space reentries depth invocation inner rest hinner _ _ ih =>
      have hwhole : IsWhole (.dispatched space reentries depth invocation :: (inner ++
          (Happening.ofCall? (space.checkedCall? reentries depth invocation) ++
            (rest ++ later)))) := .dispatched hinner ih
      simpa only [List.cons_append, List.append_assoc] using hwhole

theorem IsWhole.call
    {space : ObjectSpace} {reentries depth : Nat} {invocation : Invocation}
    {inner : List Happening} (hinner : IsWhole inner) :
    IsWhole (.dispatched space reentries depth invocation ::
      (inner ++ Happening.ofCall? (space.checkedCall? reentries depth invocation))) := by
  have hwhole : IsWhole (.dispatched space reentries depth invocation :: (inner ++
      (Happening.ofCall? (space.checkedCall? reentries depth invocation) ++ []))) :=
    .dispatched hinner .nothing
  rwa [List.append_nil] at hwhole

theorem Operation.clears_isWhole (operation : Operation) : IsWhole operation.clears := by
  cases operation with
  | clearTrace => exact .cleared .nothing
  | _ => exact .nothing

/-! ### Bodies -/

namespace Execution

variable {reentries depth limit : Nat}

/-- Calls from outside come to what dispatch has for them, with such a number of
others inside them. -/
def EntersRight (reentries : Nat) : Prop :=
  ∀ (invocation : Invocation) (waiting : List Suspension) (agenda : List Operation)
    (space : ObjectSpace),
    ∃ happened, IsWhole happened ∧
      ComesTo ⟨.entering reentries invocation, waiting, agenda, space⟩ happened
        ⟨.returning ((invocation.dispatchAt reentries 0).run space).1, waiting, agenda,
          ((invocation.dispatchAt reentries 0).run space).2⟩

/-- So do the calls from outside that are made by a body, if any is left to it. -/
def EntersRightWithin (reentries : Nat) : Prop :=
  ∀ fewer, reentries = fewer + 1 → EntersRight fewer

/-- Calls at a depth come to what dispatch has for them, and are completed last. -/
def CallsRight (reentries depth limit : Nat) : Prop :=
  ∀ (invocation : Invocation) (waiting : List Suspension) (agenda : List Operation)
    (space : ObjectSpace), space.settings.maxCallDepth = limit →
    ∃ inner, IsWhole inner ∧
      ComesTo ⟨.calling reentries depth invocation, waiting, agenda, space⟩
        (.dispatched space reentries depth invocation ::
          (inner ++ Happening.ofCall? (space.checkedCall? reentries depth invocation)))
        ⟨.returning ((invocation.dispatchAt reentries depth).run space).1, waiting, agenda,
          ((invocation.dispatchAt reentries depth).run space).2⟩

theorem below_reaches (reentries depth : Nat) : (Reentry.below reentries depth).Reaches where
  fromBody := fun _ _ _ _ space =>
    dispatch_reaches (callFromOutside_reaches reentries) _ _ _ _ _ _ space
  fromOutside := callFromOutside_reaches reentries

/-- A suspended body goes on when its call returns. -/
theorem ComesTo.resume
    {now : Execution} {activation : Activation} {next : Except CallError Value → Program}
    {waiting : List Suspension} {agenda : List Operation} {space : ObjectSpace}
    {outcome : Except CallError Value} {happened : List Happening}
    (hcomes : now.ComesTo happened
      ⟨.returning outcome, ⟨activation, next⟩ :: waiting, agenda, space⟩) :
    now.ComesTo happened ⟨.running activation (next outcome), waiting, agenda, space⟩ := by
  have hresumed : ComesTo ⟨.returning outcome, ⟨activation, next⟩ :: waiting, agenda, space⟩ []
      ⟨.running activation (next outcome), waiting, agenda, space⟩ :=
    comesTo_of_step rfl
  have htrans := hcomes.trans hresumed
  rwa [List.append_nil] at htrans

section Running

variable {activation : Activation} (waiting : List Suspension) (agenda : List Operation)
  {space : ObjectSpace}

theorem nested_comesTo
    (hcalls : CallsRight reentries (depth + 1) limit)
    (hdepth : activation.frame.depth = depth + 1) (hreentries : activation.reentries = reentries)
    (invocation : Invocation) (next : Except CallError Value → Program)
    (hlimit : space.settings.maxCallDepth = limit) :
    ∃ happened, IsWhole happened ∧ ComesTo
      ⟨.calling activation.reentries activation.frame.depth invocation,
        ⟨activation, next⟩ :: waiting, agenda, space⟩ happened
      ⟨.running activation (next ((invocation.dispatchAt reentries (depth + 1)).run space).1),
        waiting, agenda, ((invocation.dispatchAt reentries (depth + 1)).run space).2⟩ := by
  obtain ⟨inner, hinner, hcalled⟩ :=
    hcalls invocation (⟨activation, next⟩ :: waiting) agenda space hlimit
  rw [hdepth, hreentries]
  exact ⟨_, hinner.call, hcalled.resume⟩

theorem performed_comesTo
    (henters : EntersRightWithin reentries)
    (hreentries : activation.reentries = reentries) (operation : Operation)
    (next : Except Failure Response → Program) :
    ∃ happened, IsWhole happened ∧ ComesTo
      ⟨.running activation (.perform operation next), waiting, agenda, space⟩ happened
      ⟨.running activation (next ((operation.perform (callFromOutside reentries)).run space).1),
        waiting, agenda, ((operation.perform (callFromOutside reentries)).run space).2⟩ := by
  cases hcall : operation.asCall? with
  | some invocation =>
      cases reentries with
      | zero =>
          have hstep : step? ⟨.running activation (.perform operation next), waiting, agenda,
              space⟩ = some ([], ⟨.running activation (next (.error .cutOff)), waiting, agenda,
                space⟩) := by
            simp only [step?, advance, hcall, hreentries]
          rw [Operation.perform_cutOff_run hcall]
          exact ⟨[], .nothing, comesTo_of_step hstep⟩
      | succ fewer =>
          obtain ⟨happened, hwhole, hentered⟩ :=
            henters fewer rfl invocation (⟨activation, next ∘ answerTo⟩ :: waiting) agenda space
          have hstep : step? ⟨.running activation (.perform operation next), waiting, agenda,
              space⟩ = some ([], ⟨.entering fewer invocation,
                ⟨activation, next ∘ answerTo⟩ :: waiting, agenda, space⟩) := by
            simp only [step?, advance, hcall, hreentries]
          rw [Operation.perform_call_run hcall]
          exact ⟨_, hwhole, .silently hstep hentered.resume⟩
  | none =>
      have hstep : step? ⟨.running activation (.perform operation next), waiting, agenda,
          space⟩ = some (operation.clears, ⟨.running activation
            (next (operation.performAtOnce.run space).1), waiting, agenda,
              (operation.performAtOnce.run space).2⟩) := by
        simp only [step?, advance, hcall]
        rfl
      rw [Operation.perform_of_no_call hcall]
      exact ⟨_, operation.clears_isWhole, comesTo_of_step hstep⟩

/-- A body makes one step after the other until its program has finished, with what
the program comes to if it is run at once. -/
theorem running_comesTo
    (henters : EntersRightWithin reentries)
    (hcalls : CallsRight reentries (depth + 1) limit)
    (hdepth : activation.frame.depth = depth + 1) (hreentries : activation.reentries = reentries)
    (program : Program) (hlimit : space.settings.maxCallDepth = limit) :
    ∃ happened, IsWhole happened ∧
      ComesTo ⟨.running activation program, waiting, agenda, space⟩ happened
        ⟨.running activation
            (.finish ((program.run (.below reentries depth) activation.frame).run space).1),
          waiting, agenda,
          ((program.run (.below reentries depth) activation.frame).run space).2⟩ := by
  have hkeeps : ∀ {after : ObjectSpace}, space.Reaches after →
      after.settings.maxCallDepth = limit := by
    intro after hreaches
    rw [hreaches.fixed.2]
    exact hlimit
  induction program generalizing space with
  | finish outcome => exact ⟨[], .nothing, .refl _⟩
  | observe next ih =>
      obtain ⟨later, hwhole, hrest⟩ := ih space.observe hlimit hkeeps
      exact ⟨_, hwhole, .silently rfl hrest⟩
  | call receiver member arguments next ih =>
      let invocation : Invocation :=
        ⟨.nested activation.frame.receiver, receiver, member, arguments⟩
      obtain ⟨called, hcall, hcalled⟩ :=
        nested_comesTo waiting agenda hcalls hdepth hreentries invocation next hlimit
      have hafter := (below_reaches reentries depth).fromBody invocation.mode receiver member
        arguments space
      obtain ⟨later, hlater, hrest⟩ :=
        ih _ (hkeeps hafter) fun hreaches => hkeeps (hafter.trans hreaches)
      exact ⟨_, hcall.append hlater, .silently rfl (hcalled.trans hrest)⟩
  | send member arguments next ih =>
      let invocation : Invocation := ⟨.selfSend, activation.frame.receiver, member, arguments⟩
      obtain ⟨called, hcall, hcalled⟩ :=
        nested_comesTo waiting agenda hcalls hdepth hreentries invocation next hlimit
      have hafter := (below_reaches reentries depth).fromBody .selfSend activation.frame.receiver
        member arguments space
      obtain ⟨later, hlater, hrest⟩ :=
        ih _ (hkeeps hafter) fun hreaches => hkeeps (hafter.trans hreaches)
      exact ⟨_, hcall.append hlater, .silently rfl (hcalled.trans hrest)⟩
  | perform operation next ih =>
      obtain ⟨performed, hperform, hperformed⟩ :=
        performed_comesTo waiting agenda henters hreentries operation next
      have hafter := operation.perform_reaches (callFromOutside_reaches reentries) space
      obtain ⟨later, hlater, hrest⟩ :=
        ih _ (hkeeps hafter) fun hreaches => hkeeps (hafter.trans hreaches)
      exact ⟨_, hperform.append hlater, hperformed.trans hrest⟩

end Running

/-! ### Calls -/

/-- What happens while a body runs comes before the completion of its call. -/
theorem admitted_comesTo
    (henters : EntersRightWithin reentries)
    (hcalls : CallsRight reentries (depth + 1) limit)
    (invocation : Invocation) (waiting : List Suspension) (agenda : List Operation)
    {space : ObjectSpace} (hlimit : space.settings.maxCallDepth = limit) (hdepth : depth < limit)
    {found : ObjectSpace.Resolution} {bound : Arguments}
    (hresolve : space.resolveCall invocation.mode invocation.receiver invocation.member
      invocation.arguments = .ok (found, bound)) :
    ∃ inner, IsWhole inner ∧
      ComesTo ⟨.calling reentries depth invocation, waiting, agenda, space⟩
        (.dispatched space reentries depth invocation ::
          (inner ++ Happening.ofCall? (space.checkedCall? reentries depth invocation)))
        ⟨.returning ((invocation.dispatchAt reentries depth).run space).1, waiting, agenda,
          ((invocation.dispatchAt reentries depth).run space).2⟩ := by
  have hshallow : ¬ space.settings.maxCallDepth ≤ depth := by omega
  let activation := Activation.ofCall space reentries depth invocation found.interceptors bound
  cases harguments : space.checkAllArguments invocation.member bound activation.contracts with
  | error error =>
      obtain ⟨hrun, hchecked⟩ :=
        Invocation.dispatchAt_of_refused reentries hshallow hresolve harguments
      rw [hrun, hchecked]
      refine ⟨[], .nothing, comesTo_of_step ?_⟩
      simp only [step?, decide, if_neg hshallow, hresolve]
      rw [harguments]
      rfl
  | ok passed =>
      rcases hbody : (found.member.body.run (.below reentries depth) activation.frame).run space
        with ⟨ran, middle⟩
      obtain ⟨hrun, hchecked⟩ := Invocation.dispatchAt_of_ran hshallow hresolve harguments hbody
      rw [hrun, hchecked]
      have hnext : activation.frame.depth = depth + 1 := rfl
      have hreentries : activation.reentries = reentries := rfl
      have hafter := found.member.body.begin_reaches activation.frame space
      obtain ⟨inner, hinner, hran⟩ :=
        running_comesTo waiting agenda henters hcalls hnext hreentries
          (found.member.body.begin activation.frame space).1 (hafter.fixed.2 ▸ hlimit)
      rw [Body.begin_run, hbody] at hran
      have hbegin : step? ⟨.calling reentries depth invocation, waiting, agenda, space⟩ =
          some ([.dispatched space reentries depth invocation],
            ⟨.running activation (found.member.body.begin activation.frame space).1, waiting,
              agenda, (found.member.body.begin activation.frame space).2⟩) := by
        simp only [step?, decide, if_neg hshallow, hresolve]
        rw [harguments]
      have hcomes := ComesTo.head hbegin (hran.trans (comesTo_of_step rfl))
      exact ⟨inner, hinner, hcomes⟩

/-- By induction on the levels that are left. -/
theorem callsRight
    (henters : EntersRightWithin reentries)
    (left : Nat) (hleft : limit - depth = left) :
    CallsRight reentries depth limit := by
  induction left generalizing depth with
  | zero =>
      rintro invocation waiting agenda space rfl
      have hdeep : space.settings.maxCallDepth ≤ depth := Nat.le_of_sub_eq_zero hleft
      rw [Invocation.dispatchAt, dispatchAt_run, if_pos hdeep, ObjectSpace.checkedCall?,
        if_pos hdeep]
      refine ⟨[], .nothing, comesTo_of_step ?_⟩
      simp only [step?, decide, if_pos hdeep]
      rfl
  | succ left ih =>
      have hinner : CallsRight reentries (depth + 1) limit := ih (by omega)
      rintro invocation waiting agenda space hlimit
      have hdepth : depth < limit := by omega
      have hshallow : ¬ space.settings.maxCallDepth ≤ depth := by omega
      cases hresolve : space.resolveCall invocation.mode invocation.receiver invocation.member
          invocation.arguments with
      | ok admitted =>
          exact admitted_comesTo henters hinner invocation waiting agenda hlimit hdepth hresolve
      | error error =>
          rw [Invocation.dispatchAt, dispatchAt_run, if_neg hshallow, ObjectSpace.checkedCall?,
            if_neg hshallow, hresolve]
          refine ⟨[], .nothing, comesTo_of_step ?_⟩
          simp only [step?, decide, if_neg hshallow, hresolve]
          rfl

/-- By induction on the calls from outside that may still be inside each other. -/
theorem entersRight (reentries : Nat) : EntersRight reentries := by
  induction reentries using Nat.strongRecOn with
  | _ reentries ih =>
      have henters : EntersRightWithin reentries := fun fewer hfewer =>
        ih fewer (hfewer ▸ Nat.lt_succ_self fewer)
      intro invocation waiting agenda space
      have hcalls : CallsRight reentries 0 space.settings.maxCallDepth := callsRight henters _ rfl
      obtain ⟨inner, hinner, hcalled⟩ := hcalls invocation waiting agenda space rfl
      exact ⟨_, hinner.call, .silently rfl hcalled⟩

theorem entersRightWithin (reentries : Nat) : EntersRightWithin reentries :=
  fun fewer _ => entersRight fewer

/-- A call that is about to be decided comes to the outcome that dispatch has for it. -/
theorem calling_comesTo
    (reentries depth : Nat) (invocation : Invocation) (waiting : List Suspension)
    (agenda : List Operation) (space : ObjectSpace) :
    ∃ inner, IsWhole inner ∧
      ComesTo ⟨.calling reentries depth invocation, waiting, agenda, space⟩
        (.dispatched space reentries depth invocation ::
          (inner ++ Happening.ofCall? (space.checkedCall? reentries depth invocation)))
        ⟨.returning ((invocation.dispatchAt reentries depth).run space).1, waiting, agenda,
          ((invocation.dispatchAt reentries depth).run space).2⟩ :=
  callsRight (entersRightWithin reentries) _ rfl invocation waiting agenda space rfl

/-! ### Operations -/

theorem answered_comesTo
    (answer : Except Failure Response) (operation : Operation) (rest : List Operation)
    (space : ObjectSpace) :
    ∃ happened, IsWhole happened ∧
      ComesTo ⟨.answered answer, [], operation :: rest, space⟩ happened
        ⟨.answered (space.perform operation).1, [], rest, (space.perform operation).2⟩ := by
  cases hcall : operation.asCall? with
  | some invocation =>
      obtain ⟨happened, hwhole, hentered⟩ := entersRight maxReentries invocation [] rest space
      have hstep : step? ⟨.answered answer, [], operation :: rest, space⟩ =
          some ([], ⟨.entering maxReentries invocation, [], rest, space⟩) := by
        simp only [step?, takeUp?, hcall]
      rw [ObjectSpace.perform, Operation.perform_call_run hcall]
      exact ⟨_, hwhole.append .nothing, .silently hstep (hentered.trans (comesTo_of_step rfl))⟩
  | none =>
      have hstep : step? ⟨.answered answer, [], operation :: rest, space⟩ =
          some (operation.clears, ⟨.answered (operation.performAtOnce.run space).1, [], rest,
            (operation.performAtOnce.run space).2⟩) := by
        simp only [step?, takeUp?, hcall]
        rfl
      rw [ObjectSpace.perform, Operation.perform_of_no_call hcall]
      exact ⟨_, operation.clears_isWhole, comesTo_of_step hstep⟩

/-- An execution performs one operation after the other and ends. -/
theorem start_comesTo (space : ObjectSpace) (operations : List Operation) :
    ∃ happened answer, IsWhole happened ∧ (start space operations).ComesTo happened
      ⟨.answered answer, [], [], space.afterAll operations⟩ := by
  have hgeneral : ∀ answer, ∃ happened last, IsWhole happened ∧
      ComesTo ⟨.answered answer, [], operations, space⟩ happened
        ⟨.answered last, [], [], space.afterAll operations⟩ := by
    induction operations generalizing space with
    | nil => exact fun answer => ⟨[], answer, .nothing, .refl _⟩
    | cons operation rest ih =>
        intro answer
        obtain ⟨first, hwhole, hfirst⟩ := answered_comesTo answer operation rest space
        obtain ⟨later, last, hlater, hrest⟩ :=
          ih (space.perform operation).2 (space.perform operation).1
        exact ⟨_, last, hwhole.append hlater, hfirst.trans hrest⟩
  exact hgeneral (.ok .done)

end Execution

end CallContract
