import CallContract.Proofs.ExecutionOutcome

/-!
# How a call begins

The first step of a call decides about it.  A call that resolution refuses goes
back with its error in that step, and nothing else happens.  A call that is
admitted begins the body that was found for it if all contracts on its way
accept its arguments; the body runs under these contracts, whatever comes later.
-/

namespace CallContract

namespace ObjectSpace

/-- A call that goes back with an error in its first step, without being checked:
nothing that a body does can be the cause. -/
structure FailsAtOnce
    (space : ObjectSpace)
    (reentries depth : Nat)
    (invocation : Invocation)
    (error : CallError) : Prop where
  refused : ∀ waiting agenda,
    Execution.step? ⟨.calling reentries depth invocation, waiting, agenda, space⟩ =
      some ([.dispatched space reentries depth invocation],
        ⟨.returning (.error error), waiting, agenda, space⟩)
  outcome : (invocation.dispatchAt reentries depth).run space = (.error error, space)

/-- A call whose body begins in its first step, with what is left to do of it. -/
def BeginsBody
    (space : ObjectSpace)
    (reentries depth : Nat)
    (invocation : Invocation)
    (activation : Activation)
    (program : Program)
    (after : ObjectSpace) : Prop :=
  ∀ waiting agenda,
    Execution.step? ⟨.calling reentries depth invocation, waiting, agenda, space⟩ =
      some ([.dispatched space reentries depth invocation],
        ⟨.running activation program, waiting, agenda, after⟩)

/-- A call that reaches a member along a way, and whose arguments are accepted
by all contracts there. -/
structure Passes
    (space : ObjectSpace)
    (depth : Nat)
    (invocation : Invocation)
    (way : List ScopeId)
    (found : Member)
    (bound : Arguments) : Prop where
  admits : space.Admits depth invocation.mode invocation.receiver invocation.member
    invocation.arguments way found bound
  arguments : space.ArgumentsPass invocation.member way bound

/-- The activation of a call that has gone a way. -/
def activationOn
    (space : ObjectSpace)
    (reentries depth : Nat)
    (invocation : Invocation)
    (way : List ScopeId)
    (bound : Arguments) : Activation where
  frame := ⟨invocation.receiver, invocation.member, bound, depth + 1⟩
  interceptors := space.checkersOn invocation.member way
  contracts := space.contractsOn invocation.member way
  reentries := reentries

variable {space after : ObjectSpace} {reentries depth : Nat} {invocation : Invocation}
  {mode : CallMode} {receiver : Value} {name : Symbol} {arguments : Arguments}

/-! ### What resolution comes to -/

theorem resolveCall_eq_noMethod_iff :
    space.resolveCall mode receiver name arguments =
        .error (.noMethod name (space.describe receiver)) ↔
      space.resolve? receiver name = none := by
  unfold resolveCall
  cases space.resolve? receiver name with
  | none => simp
  | some found =>
      simp only [reduceCtorEq, iff_false]
      split
      next => split <;> simp
      next => simp

theorem resolveCall_eq_inaccessible_iff
    {way : List ScopeId} {found : Member} (hfinds : space.Finds receiver name way found) :
    space.resolveCall mode receiver name arguments =
        .error (.inaccessible found.definition.name found.definition.visibility
          (space.describe receiver)) ↔
      space.mayReach found.definition mode = false := by
  cases hreach : space.mayReach found.definition mode with
  | false => simp [resolveCall_of_inaccessible hfinds hreach]
  | true =>
      simp only [resolveCall, resolve?_of_finds hfinds, hreach, if_true]
      split <;> simp

/-! ### The first step -/

section Shallow

variable (hshallow : depth < space.settings.maxCallDepth)

include hshallow

theorem failsAtOnce_iff {error : CallError} :
    space.FailsAtOnce reentries depth invocation error ↔
      space.resolveCall invocation.mode invocation.receiver invocation.member
        invocation.arguments = .error error := by
  have hnotDeep := Nat.not_le.mpr hshallow
  constructor
  · intro hfails
    have hstep := hfails.refused [] []
    simp only [Execution.step?, Execution.decide, if_neg hnotDeep] at hstep
    cases hresolve : space.resolveCall invocation.mode invocation.receiver invocation.member
        invocation.arguments with
    | error found =>
        simp only [hresolve] at hstep
        cases hstep
        rfl
    | ok admitted =>
        obtain ⟨resolution, bound⟩ := admitted
        simp only [hresolve] at hstep
        split at hstep
        next hrefused =>
          -- some contract was asked, so a scope intercepts the call and its end is told
          cases hinterceptors : resolution.interceptors with
          | nil =>
              rw [hinterceptors] at hrefused
              cases hrefused
          | cons scope rest =>
              simp [Execution.conclude, Activation.checkedCall?, Activation.ofCall,
                hinterceptors, Happening.ofCall?] at hstep
        next => cases hstep
  · intro hresolve
    refine ⟨fun waiting agenda => ?_, dispatchAt_of_resolveCall_error hshallow hresolve⟩
    simp only [Execution.step?, Execution.decide, if_neg hnotDeep, hresolve]

theorem failsAtOnce_noMethod_iff (reentries : Nat) (invocation : Invocation) :
    space.FailsAtOnce reentries depth invocation
        (.noMethod invocation.member (space.describe invocation.receiver)) ↔
      space.resolve? invocation.receiver invocation.member = none :=
  (failsAtOnce_iff hshallow).trans resolveCall_eq_noMethod_iff

theorem failsAtOnce_inaccessible_iff
    {way : List ScopeId} {found : Member}
    (hfinds : space.Finds invocation.receiver invocation.member way found) :
    space.FailsAtOnce reentries depth invocation
        (.inaccessible found.definition.name found.definition.visibility
          (space.describe invocation.receiver)) ↔
      space.mayReach found.definition invocation.mode = false :=
  (failsAtOnce_iff hshallow).trans (resolveCall_eq_inaccessible_iff hfinds)

end Shallow

/-- A body begins exactly if it was found on the way of a call that passes. -/
theorem beginsBody_iff {activation : Activation} {program : Program} :
    space.BeginsBody reentries depth invocation activation program after ↔
      ∃ way found bound, space.Passes depth invocation way found bound ∧
        activation = space.activationOn reentries depth invocation way bound ∧
        program = (found.body.begin activation.frame space).1 ∧
        after = (found.body.begin activation.frame space).2 := by
  constructor
  · intro hbegins
    have hstep := Execution.step_of_step? (hbegins [] [])
    generalize hnext : Execution.mk (.running activation program) [] [] after = next at hstep
    generalize [Happening.dispatched space reentries depth invocation] = happening at hstep
    cases hstep with
    | begin hshallow hresolve hactivation hpass =>
        obtain ⟨way, hfinds, hinterceptors, hreach, hbind⟩ := resolveCall_eq_ok_iff.mp hresolve
        subst hactivation
        cases hnext
        rw [hinterceptors] at hpass ⊢
        exact ⟨way, _, _, ⟨⟨hshallow, hfinds, hreach, hbind⟩,
          checkAllArguments_eq_ok_iff.mp hpass⟩, rfl, rfl, rfl⟩
    | _ => cases hnext
  · rintro ⟨way, found, bound, hpasses, rfl, rfl, rfl⟩ waiting agenda
    have hpass : space.checkAllArguments invocation.member bound
        (Activation.ofCall space reentries depth invocation
          (space.checkersOn invocation.member way) bound).contracts = .ok () :=
      checkAllArguments_eq_ok_iff.mpr hpasses.arguments
    simp only [Execution.step?, Execution.decide, if_neg (Nat.not_le.mpr hpasses.admits.shallow),
      resolveCall_of_admits hpasses.admits, hpass]
    rfl

end ObjectSpace

end CallContract
