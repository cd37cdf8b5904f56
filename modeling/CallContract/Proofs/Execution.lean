import CallContract.ObjectSpace.Dispatch

/-!
# Executions step by step

An execution takes one step at a time: a call is entered, decided and begun, its
body looks at the object space, calls, or performs an operation, and its outcome
goes back to whatever made the call.  The bodies that wait for a call are a stack,
and each of them carries its frame.  A step is not bounded by anything but the
limits that the calls themselves check.

An execution also tells what happens: which calls are dispatched, which of them are
completed after they went through checks, and when the trace is cleared.
-/

namespace CallContract

/-! ### Moments of an execution -/

structure Invocation where
  mode : CallMode
  receiver : Value
  member : Symbol
  arguments : Arguments

/-- The call as dispatch makes it at a depth. -/
def Invocation.dispatchAt (invocation : Invocation) (reentries depth : Nat) : Run Value :=
  CallContract.dispatchAt (callFromOutside reentries) depth invocation.mode invocation.receiver
    invocation.member invocation.arguments

/-- A body that has begun, with the contracts that it began under and the number
of calls from outside that may still be inside each other. -/
structure Activation where
  frame : Frame
  interceptors : List ScopeId
  contracts : List (ScopeId × Signature)
  reentries : Nat

/-- A body that waits for the outcome of a call. -/
structure Suspension where
  activation : Activation
  next : Except CallError Value → Program

/-- What an execution is about. -/
inductive Control
  | answered (answer : Except Failure Response)
  | entering (reentries : Nat) (invocation : Invocation)
  | calling (reentries depth : Nat) (invocation : Invocation)
  | running (activation : Activation) (program : Program)
  | returning (outcome : Except CallError Value)

/-- A call that went through checks: the nearest scope that intercepts it, what its
body came to if it was run, and what the call came to. -/
structure CheckedCall where
  nearest : ScopeId
  frame : Frame
  ran : Option (Except CallError Value)
  outcome : Except CallError Value

/-- What an execution tells: a call is dispatched in an object space, a checked call
ends, or the trace is cleared. -/
inductive Happening
  | dispatched (space : ObjectSpace) (reentries depth : Nat) (invocation : Invocation)
  | completed (call : CheckedCall)
  | cleared

def Happening.ofCall? (call : Option CheckedCall) : List Happening :=
  call.toList.map .completed

/-- A moment of an execution: its waiting bodies from the innermost on, and the
operations that are performed from outside after the present one. -/
structure Execution where
  control : Control
  waiting : List Suspension
  agenda : List Operation
  space : ObjectSpace

def Execution.start (space : ObjectSpace) (operations : List Operation) : Execution :=
  ⟨.answered (.ok .done), [], operations, space⟩

/-! ### Steps -/

/-- The call from outside that an operation is. -/
def Operation.asCall? : Operation → Option Invocation
  | .call receiver member arguments => some ⟨.external, receiver, member, arguments⟩
  | .send receiver member arguments => some ⟨.selfSend, receiver, member, arguments⟩
  | _ => none

/-- What an operation that is no call does. -/
def Operation.performAtOnce (operation : Operation) : Action Failure Response :=
  operation.perform (callFromOutside 0)

def Operation.clears : Operation → List Happening
  | .clearTrace => [.cleared]
  | _ => []

/-- The answer to a call from outside. -/
def answerTo : Except CallError Value → Except Failure Response
  | .ok value => .ok (.value value)
  | .error error => .error (.call error)

/-- No level left to call from within, and no call from outside. -/
def Reentry.exhausted : Reentry :=
  ⟨dispatch (callFromOutside 0) 0 0, callFromOutside 0⟩

/-- What is left to do of a body; what is no program calls nothing and is done at
once. -/
def Body.begin (body : Body) (frame : Frame) (space : ObjectSpace) : Program × ObjectSpace :=
  match body with
  | .script program => (program frame, space)
  | body =>
      match (body.run .exhausted frame).run space with
      | (outcome, after) => (.finish outcome, after)

namespace Activation

/-- The body of a call that is admitted, with its arguments bound, as it begins. -/
def ofCall
    (space : ObjectSpace)
    (reentries depth : Nat)
    (invocation : Invocation)
    (interceptors : List ScopeId)
    (bound : Arguments) : Activation where
  frame := ⟨invocation.receiver, invocation.member, bound, depth + 1⟩
  interceptors := interceptors
  contracts := space.signaturesFor invocation.member interceptors
  reentries := reentries

/-- The outcome of a call whose body has come to an end. -/
def outcomeOf
    (activation : Activation)
    (space : ObjectSpace) : Except CallError Value → Except CallError Value
  | .error error => .error error
  | .ok value =>
      match space.checkAllResults activation.frame.member value activation.contracts.reverse with
      | .error error => .error error
      | .ok () => .ok value

/-- The checked call that ends, if there is a scope that intercepts it. -/
def checkedCall?
    (activation : Activation)
    (ran : Option (Except CallError Value))
    (outcome : Except CallError Value) : Option CheckedCall :=
  activation.interceptors.head?.map fun nearest => ⟨nearest, activation.frame, ran, outcome⟩

end Activation

def errorOf? : Except ε α → Option ε
  | .ok _ => none
  | .error error => some error

namespace Execution

/-- A call ends: it is recorded and goes back with its outcome. -/
def conclude
    (now : Execution)
    (activation : Activation)
    (ran : Option (Except CallError Value))
    (outcome : Except CallError Value) : List Happening × Execution :=
  (Happening.ofCall? (activation.checkedCall? ran outcome),
    { now with
      control := .returning outcome
      space := now.space.recordOutcome activation.interceptors activation.frame
        (ran.bind Except.toOption) (errorOf? outcome) })

/-- A call is decided, and its body begins if it is admitted and its arguments
pass. -/
def decide
    (now : Execution)
    (reentries depth : Nat)
    (invocation : Invocation) : List Happening × Execution :=
  if now.space.settings.maxCallDepth ≤ depth then
    ([], { now with
      control := .returning (.error (.depthExceeded now.space.settings.maxCallDepth)) })
  else
    match now.space.resolveCall invocation.mode invocation.receiver invocation.member
        invocation.arguments with
    | .error error => ([], { now with control := .returning (.error error) })
    | .ok (found, bound) =>
        let activation :=
          Activation.ofCall now.space reentries depth invocation found.interceptors bound
        match now.space.checkAllArguments invocation.member bound activation.contracts with
        | .error error => now.conclude activation none (.error error)
        | .ok () =>
            match found.member.body.begin activation.frame now.space with
            | (program, after) =>
                ([], { now with control := .running activation program, space := after })

/-- A body makes its next step. -/
def advance
    (now : Execution)
    (activation : Activation) : Program → List Happening × Execution
  | .finish outcome =>
      now.conclude activation (some outcome) (activation.outcomeOf now.space outcome)
  | .observe next => ([], { now with control := .running activation (next now.space.observe) })
  | .call receiver member arguments next =>
      ([], { now with
        control := .calling activation.reentries activation.frame.depth
          ⟨.nested activation.frame.receiver, receiver, member, arguments⟩
        waiting := ⟨activation, next⟩ :: now.waiting })
  | .send member arguments next =>
      ([], { now with
        control := .calling activation.reentries activation.frame.depth
          ⟨.selfSend, activation.frame.receiver, member, arguments⟩
        waiting := ⟨activation, next⟩ :: now.waiting })
  | .perform operation next =>
      match operation.asCall?, activation.reentries with
      | some _, 0 => ([], { now with control := .running activation (next (.error .cutOff)) })
      | some invocation, reentries + 1 =>
          ([], { now with
            control := .entering reentries invocation
            waiting := ⟨activation, next ∘ answerTo⟩ :: now.waiting })
      | none, _ =>
          match operation.performAtOnce.run now.space with
          | (answer, after) =>
              (operation.clears, { now with
                control := .running activation (next answer)
                space := after })

/-- The next operation is performed from outside, if there is one. -/
def takeUp? (now : Execution) : Option (List Happening × Execution) :=
  match now.agenda with
  | [] => none
  | operation :: rest =>
      match operation.asCall? with
      | some invocation =>
          some ([], { now with
            control := .entering maxReentries invocation
            agenda := rest })
      | none =>
          match operation.performAtOnce.run now.space with
          | (answer, after) =>
              some (operation.clears, { now with
                control := .answered answer
                agenda := rest
                space := after })

/-- The next step, if the execution has not ended, with what happens in it. -/
def step? (now : Execution) : Option (List Happening × Execution) :=
  match now.control with
  | .answered _ => now.takeUp?
  | .entering reentries invocation =>
      some ([], { now with control := .calling reentries 0 invocation })
  | .calling reentries depth invocation =>
      match now.decide reentries depth invocation with
      | (happening, next) =>
          some (.dispatched now.space reentries depth invocation :: happening, next)
  | .running activation program => some (now.advance activation program)
  | .returning outcome =>
      match now.waiting with
      | [] => some ([], { now with control := .answered (answerTo outcome) })
      | suspended :: rest =>
          some ([], { now with
            control := .running suspended.activation (suspended.next outcome)
            waiting := rest })

/-- The moment after a number of steps, if there are so many, with all that has
happened before it. -/
def after? : Nat → Execution → Option (List Happening × Execution)
  | 0, now => some ([], now)
  | steps + 1, now =>
      now.step?.bind fun (happening, next) =>
        (after? steps next).map fun (later, last) => (happening ++ later, last)

/-- An execution comes from one moment to another. -/
def ComesTo (now : Execution) (happened : List Happening) (last : Execution) : Prop :=
  ∃ steps, now.after? steps = some (happened, last)

/-- What a step can be. -/
inductive Step : Execution → List Happening → Execution → Prop
  | takeUp {answer operation rest waiting space} (hcall : operation.asCall? = none) :
      Step ⟨.answered answer, waiting, operation :: rest, space⟩ operation.clears
        ⟨.answered (operation.performAtOnce.run space).1, waiting, rest,
          (operation.performAtOnce.run space).2⟩
  | takeUpCall {answer operation rest invocation waiting space}
      (hcall : operation.asCall? = some invocation) :
      Step ⟨.answered answer, waiting, operation :: rest, space⟩ []
        ⟨.entering maxReentries invocation, waiting, rest, space⟩
  | enter {reentries invocation waiting agenda space} :
      Step ⟨.entering reentries invocation, waiting, agenda, space⟩ []
        ⟨.calling reentries 0 invocation, waiting, agenda, space⟩
  | tooDeep {reentries depth invocation waiting agenda} {space : ObjectSpace}
      (hdeep : space.settings.maxCallDepth ≤ depth) :
      Step ⟨.calling reentries depth invocation, waiting, agenda, space⟩
        [.dispatched space reentries depth invocation]
        ⟨.returning (.error (.depthExceeded space.settings.maxCallDepth)), waiting, agenda, space⟩
  | refuse {reentries depth waiting agenda error} {invocation : Invocation} {space : ObjectSpace}
      (hshallow : depth < space.settings.maxCallDepth)
      (hresolve : space.resolveCall invocation.mode invocation.receiver invocation.member
        invocation.arguments = .error error) :
      Step ⟨.calling reentries depth invocation, waiting, agenda, space⟩
        [.dispatched space reentries depth invocation]
        ⟨.returning (.error error), waiting, agenda, space⟩
  | refuseArguments {reentries depth waiting agenda error found bound}
      {invocation : Invocation} {activation : Activation} {space : ObjectSpace}
      (hshallow : depth < space.settings.maxCallDepth)
      (hresolve : space.resolveCall invocation.mode invocation.receiver invocation.member
        invocation.arguments = .ok (found, bound))
      (hactivation :
        activation = .ofCall space reentries depth invocation found.interceptors bound)
      (hrefused : space.checkAllArguments invocation.member bound activation.contracts =
        .error error) :
      Step ⟨.calling reentries depth invocation, waiting, agenda, space⟩
        (.dispatched space reentries depth invocation ::
          Happening.ofCall? (activation.checkedCall? none (.error error)))
        ⟨.returning (.error error), waiting, agenda,
          space.recordOutcome activation.interceptors activation.frame none (some error)⟩
  | begin {reentries depth waiting agenda found bound} {invocation : Invocation}
      {activation : Activation} {space : ObjectSpace}
      (hshallow : depth < space.settings.maxCallDepth)
      (hresolve : space.resolveCall invocation.mode invocation.receiver invocation.member
        invocation.arguments = .ok (found, bound))
      (hactivation :
        activation = .ofCall space reentries depth invocation found.interceptors bound)
      (hpass : space.checkAllArguments invocation.member bound activation.contracts = .ok ()) :
      Step ⟨.calling reentries depth invocation, waiting, agenda, space⟩
        [.dispatched space reentries depth invocation]
        ⟨.running activation (found.member.body.begin activation.frame space).1, waiting, agenda,
          (found.member.body.begin activation.frame space).2⟩
  | finish {activation ran waiting agenda space} :
      Step ⟨.running activation (.finish ran), waiting, agenda, space⟩
        (Happening.ofCall? (activation.checkedCall? (some ran) (activation.outcomeOf space ran)))
        ⟨.returning (activation.outcomeOf space ran), waiting, agenda,
          space.recordOutcome activation.interceptors activation.frame ran.toOption
            (errorOf? (activation.outcomeOf space ran))⟩
  | observe {activation next waiting agenda space} :
      Step ⟨.running activation (.observe next), waiting, agenda, space⟩ []
        ⟨.running activation (next space.observe), waiting, agenda, space⟩
  | call {activation receiver member arguments next waiting agenda space} :
      Step ⟨.running activation (.call receiver member arguments next), waiting, agenda, space⟩ []
        ⟨.calling activation.reentries activation.frame.depth
            ⟨.nested activation.frame.receiver, receiver, member, arguments⟩,
          ⟨activation, next⟩ :: waiting, agenda, space⟩
  | send {activation member arguments next waiting agenda space} :
      Step ⟨.running activation (.send member arguments next), waiting, agenda, space⟩ []
        ⟨.calling activation.reentries activation.frame.depth
            ⟨.selfSend, activation.frame.receiver, member, arguments⟩,
          ⟨activation, next⟩ :: waiting, agenda, space⟩
  | perform {activation operation next waiting agenda space} (hcall : operation.asCall? = none) :
      Step ⟨.running activation (.perform operation next), waiting, agenda, space⟩
        operation.clears
        ⟨.running activation (next (operation.performAtOnce.run space).1), waiting, agenda,
          (operation.performAtOnce.run space).2⟩
  | cutOff {activation operation invocation next waiting agenda space}
      (hcall : operation.asCall? = some invocation) (hreentries : activation.reentries = 0) :
      Step ⟨.running activation (.perform operation next), waiting, agenda, space⟩ []
        ⟨.running activation (next (.error .cutOff)), waiting, agenda, space⟩
  | performCall {activation operation invocation reentries next waiting agenda space}
      (hcall : operation.asCall? = some invocation)
      (hreentries : activation.reentries = reentries + 1) :
      Step ⟨.running activation (.perform operation next), waiting, agenda, space⟩ []
        ⟨.entering reentries invocation, ⟨activation, next ∘ answerTo⟩ :: waiting, agenda, space⟩
  | answer {outcome agenda space} :
      Step ⟨.returning outcome, [], agenda, space⟩ [] ⟨.answered (answerTo outcome), [], agenda,
        space⟩
  | resume {outcome suspended rest agenda space} :
      Step ⟨.returning outcome, suspended :: rest, agenda, space⟩ []
        ⟨.running suspended.activation (suspended.next outcome), rest, agenda, space⟩

theorem step_of_takeUp?
    {answer : Except Failure Response} {waiting : List Suspension} {agenda : List Operation}
    {space : ObjectSpace} {happening : List Happening} {next : Execution}
    (h : takeUp? ⟨.answered answer, waiting, agenda, space⟩ = some (happening, next)) :
    Step ⟨.answered answer, waiting, agenda, space⟩ happening next := by
  cases agenda with
  | nil => cases h
  | cons operation rest =>
      cases hcall : operation.asCall? with
      | none =>
          simp only [takeUp?, hcall] at h
          cases h
          exact .takeUp hcall
      | some invocation =>
          simp only [takeUp?, hcall] at h
          cases h
          exact .takeUpCall hcall

/-- A call is too deep, or refused before its checks, or by them, or its body begins. -/
theorem step_of_decide
    (reentries depth : Nat) (invocation : Invocation) (waiting : List Suspension)
    (agenda : List Operation) (space : ObjectSpace) :
    let now : Execution := ⟨.calling reentries depth invocation, waiting, agenda, space⟩
    Step now
      (.dispatched space reentries depth invocation :: (now.decide reentries depth invocation).1)
      (now.decide reentries depth invocation).2 := by
  intro now
  by_cases hdeep : space.settings.maxCallDepth ≤ depth
  · simp only [now, decide, if_pos hdeep]
    exact .tooDeep hdeep
  have hshallow := Nat.not_le.mp hdeep
  cases hresolve : space.resolveCall invocation.mode invocation.receiver invocation.member
      invocation.arguments with
  | error error =>
      simp only [now, decide, if_neg hdeep, hresolve]
      exact .refuse hshallow hresolve
  | ok admitted =>
      obtain ⟨found, bound⟩ := admitted
      cases harguments : space.checkAllArguments invocation.member bound
          (Activation.ofCall space reentries depth invocation found.interceptors
            bound).contracts with
      | error error =>
          simp only [now, decide, if_neg hdeep, hresolve, harguments]
          exact .refuseArguments hshallow hresolve rfl harguments
      | ok passed =>
          simp only [now, decide, if_neg hdeep, hresolve, harguments]
          exact .begin hshallow hresolve rfl harguments

theorem step_of_advance
    (activation : Activation) (program : Program) (waiting : List Suspension)
    (agenda : List Operation) (space : ObjectSpace) :
    let now : Execution := ⟨.running activation program, waiting, agenda, space⟩
    Step now (now.advance activation program).1 (now.advance activation program).2 := by
  intro now
  cases program with
  | finish ran => exact .finish
  | observe next => exact .observe
  | call receiver member arguments next => exact .call
  | send member arguments next => exact .send
  | perform operation next =>
      cases hcall : operation.asCall? with
      | none =>
          simp only [now, advance, hcall]
          exact .perform hcall
      | some invocation =>
          cases hreentries : activation.reentries with
          | zero =>
              simp only [now, advance, hcall, hreentries]
              exact .cutOff hcall hreentries
          | succ reentries =>
              simp only [now, advance, hcall, hreentries]
              exact .performCall hcall hreentries

theorem step_of_step? {now next : Execution} {happening : List Happening}
    (h : now.step? = some (happening, next)) : Step now happening next := by
  obtain ⟨control, waiting, agenda, space⟩ := now
  cases control with
  | answered answer => exact step_of_takeUp? h
  | entering reentries invocation =>
      cases h
      exact .enter
  | calling reentries depth invocation =>
      cases h
      exact step_of_decide reentries depth invocation waiting agenda space
  | running activation program =>
      obtain ⟨rfl, rfl⟩ := Prod.mk.inj (Option.some.inj h)
      exact step_of_advance activation program waiting agenda space
  | returning outcome =>
      cases waiting <;> cases h
      · exact .answer
      · exact .resume

variable {now middle last : Execution} {first later : List Happening}

theorem after?_succ_eq_some_iff {steps : Nat} {happened : List Happening} :
    now.after? (steps + 1) = some (happened, last) ↔
      ∃ first middle later, now.step? = some (first, middle) ∧
        middle.after? steps = some (later, last) ∧ first ++ later = happened := by
  simp only [after?, Option.bind_eq_some_iff, Option.map_eq_some_iff, Prod.exists, Prod.mk.injEq]
  constructor
  · rintro ⟨first, middle, hstep, later, last, hrest, rfl, rfl⟩
    exact ⟨first, middle, later, hstep, hrest, rfl⟩
  · rintro ⟨first, middle, later, hstep, hrest, rfl⟩
    exact ⟨first, middle, hstep, later, last, hrest, rfl, rfl⟩

theorem ComesTo.refl (now : Execution) : now.ComesTo [] now :=
  ⟨0, rfl⟩

theorem ComesTo.head
    (hstep : now.step? = some (first, middle)) (hrest : middle.ComesTo later last) :
    now.ComesTo (first ++ later) last := by
  obtain ⟨steps, hsteps⟩ := hrest
  exact ⟨steps + 1, after?_succ_eq_some_iff.mpr ⟨first, middle, later, hstep, hsteps, rfl⟩⟩

theorem ComesTo.silently
    (hstep : now.step? = some ([], middle)) (hrest : middle.ComesTo later last) :
    now.ComesTo later last :=
  .head hstep hrest

theorem comesTo_of_step (hstep : now.step? = some (first, last)) : now.ComesTo first last := by
  have hcomes := ComesTo.head hstep (.refl last)
  rwa [List.append_nil] at hcomes

theorem ComesTo.trans
    (hfirst : now.ComesTo first middle) (hlater : middle.ComesTo later last) :
    now.ComesTo (first ++ later) last := by
  obtain ⟨steps, hsteps⟩ := hfirst
  induction steps generalizing now first with
  | zero =>
      obtain ⟨rfl, rfl⟩ := Prod.mk.inj (Option.some.inj hsteps)
      exact hlater
  | succ steps ih =>
      obtain ⟨happening, next, rest, hstep, hrest, rfl⟩ := after?_succ_eq_some_iff.mp hsteps
      rw [List.append_assoc]
      exact .head hstep (ih hrest)

/-- What an execution comes to on its way has still to come to the end. -/
theorem ComesTo.through
    {happened : List Happening} (hlast : now.ComesTo happened last) (hend : last.step? = none)
    (hmiddle : now.ComesTo first middle) :
    ∃ later, first ++ later = happened ∧ middle.ComesTo later last := by
  obtain ⟨steps, hsteps⟩ := hmiddle
  induction steps generalizing now first happened with
  | zero =>
      obtain ⟨rfl, rfl⟩ := Prod.mk.inj (Option.some.inj hsteps)
      exact ⟨happened, rfl, hlast⟩
  | succ steps ih =>
      obtain ⟨happening, next, rest, hstep, hrest, rfl⟩ := after?_succ_eq_some_iff.mp hsteps
      obtain ⟨total, htotal⟩ := hlast
      cases total with
      | zero =>
          obtain ⟨rfl, rfl⟩ := Prod.mk.inj (Option.some.inj htotal)
          rw [hend] at hstep
          cases hstep
      | succ total =>
          obtain ⟨_, _, remaining, hsame, hremaining, rfl⟩ := after?_succ_eq_some_iff.mp htotal
          rw [hstep] at hsame
          cases hsame
          obtain ⟨later, rfl, hcomes⟩ := ih ⟨total, hremaining⟩ hrest
          exact ⟨later, List.append_assoc _ _ _, hcomes⟩

/-- An execution ends in one way. -/
theorem ComesTo.unique
    {happened others : List Happening} {other : Execution} (hlast : now.ComesTo happened last)
    (hend : last.step? = none) (hother : now.ComesTo others other)
    (hotherEnd : other.step? = none) : others = happened ∧ other = last := by
  obtain ⟨later, rfl, steps, hsteps⟩ := hlast.through hend hother
  cases steps with
  | zero =>
      obtain ⟨rfl, rfl⟩ := Prod.mk.inj (Option.some.inj hsteps)
      exact ⟨(List.append_nil _).symm, rfl⟩
  | succ steps =>
      obtain ⟨_, _, _, hstep, -, -⟩ := after?_succ_eq_some_iff.mp hsteps
      rw [hotherEnd] at hstep
      cases hstep

/-- What every step keeps, every moment of an execution has. -/
theorem after?_induction
    {holds : List Happening → Execution → Prop}
    (hstep : ∀ happened now happening next, holds happened now → Step now happening next →
      holds (happened ++ happening) next)
    {steps : Nat} {earlier happened : List Happening} (hnow : holds earlier now)
    (h : now.after? steps = some (happened, last)) : holds (earlier ++ happened) last := by
  induction steps generalizing now earlier happened with
  | zero =>
      obtain ⟨rfl, rfl⟩ := Prod.mk.inj (Option.some.inj h)
      rwa [List.append_nil]
  | succ steps ih =>
      obtain ⟨happening, next, later, hnext, hrest, rfl⟩ := after?_succ_eq_some_iff.mp h
      rw [← List.append_assoc]
      exact ih (hstep _ _ _ _ hnow (step_of_step? hnext)) hrest

theorem after?_invariant
    {holds : Execution → Prop}
    (hstep : ∀ now happening next, holds now → Step now happening next → holds next)
    {steps : Nat} {happened : List Happening} (hnow : holds now)
    (h : now.after? steps = some (happened, last)) : holds last :=
  @after?_induction now last (fun _ => holds) (fun _ => hstep) steps [] happened hnow h

end Execution

end CallContract
