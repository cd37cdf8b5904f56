import CallContract.Proofs.Reachability
import CallContract.Proofs.Resolution

/-!
# How a call is decided

`CallDecision` lists the ways in which a call can be decided, each with all
that has to hold for it.  A call takes exactly one of them.  Its body is run
once if the call is admitted and the arguments pass every contract on the way
to the member, and it is not run otherwise.
-/

namespace CallContract

/-! ### The levels of nested calls -/

/-- How a body may call members that is called at a depth. -/
def Reentry.below (reentries depth : Nat) : Reentry :=
  ⟨dispatchAt (callFromOutside reentries) (depth + 1), callFromOutside reentries⟩

/-- Two reentries that differ in the calls from bodies only, and agree on them
as long as the call depth is bounded by the same number. -/
structure Reentry.Agree (limit : Nat) (first second : Reentry) : Prop where
  reaches : first.Reaches
  fromBody : ∀ mode receiver member arguments (space : ObjectSpace),
    space.settings.maxCallDepth = limit →
      (first.fromBody mode receiver member arguments).run space =
        (second.fromBody mode receiver member arguments).run space
  fromOutside : first.fromOutside = second.fromOutside

/-- Programs cannot tell such reentries apart: no step changes the settings. -/
theorem Program.run_agree
    {limit : Nat} {first second : Reentry} (hagree : first.Agree limit second)
    (frame : Frame) (program : Program) :
    ∀ space : ObjectSpace, space.settings.maxCallDepth = limit →
      (program.run first frame).run space = (program.run second frame).run space := by
  have hkeeps : ∀ {space after : ObjectSpace}, space.Reaches after →
      space.settings.maxCallDepth = limit → after.settings.maxCallDepth = limit := by
    intro space after hreaches hlimit
    rw [hreaches.fixed.2]
    exact hlimit
  induction program with
  | finish outcome => exact fun _ _ => rfl
  | observe next ih => exact fun space hlimit => ih space.observe space hlimit
  | call receiver member arguments next ih =>
      intro space hlimit
      have hafter := hkeeps
        (hagree.reaches.fromBody (.nested frame.receiver) receiver member arguments space) hlimit
      simp only [Program.run, Action.run_handle]
      rw [ih _ _ hafter, hagree.fromBody _ _ _ _ space hlimit]
  | send member arguments next ih =>
      intro space hlimit
      have hafter :=
        hkeeps (hagree.reaches.fromBody .selfSend frame.receiver member arguments space) hlimit
      simp only [Program.run, Action.run_handle]
      rw [ih _ _ hafter, hagree.fromBody _ _ _ _ space hlimit]
  | perform operation next ih =>
      intro space hlimit
      have hafter :=
        hkeeps (operation.perform_reaches hagree.reaches.fromOutside space) hlimit
      simp only [Program.run, Action.run_handle]
      rw [ih _ _ hafter, hagree.fromOutside]

theorem Body.run_agree
    {limit : Nat} {first second : Reentry} (hagree : first.Agree limit second)
    (frame : Frame) (body : Body) (space : ObjectSpace)
    (hlimit : space.settings.maxCallDepth = limit) :
    (body.run first frame).run space = (body.run second frame).run space := by
  cases body with
  | script program => exact Program.run_agree hagree frame (program frame) space hlimit
  | _ => rfl

theorem dispatch_agree_dispatchAt
    (reentries depth left limit : Nat) (hleft : limit - depth = left) :
    Reentry.Agree limit
      ⟨dispatch (callFromOutside reentries) left depth, callFromOutside reentries⟩
      ⟨dispatchAt (callFromOutside reentries) depth, callFromOutside reentries⟩ where
  reaches :=
    { fromBody := dispatch_reaches (callFromOutside_reaches reentries) left depth
      fromOutside := callFromOutside_reaches reentries }
  fromBody := by
    intro mode receiver member arguments space hlimit
    simp only [dispatchAt, ExceptT.run_mk, hlimit, hleft]
  fromOutside := rfl

theorem runChecked_congr
    {interceptors : List ScopeId} {frame : Frame} {first second : Run Value}
    {space : ObjectSpace} (h : first.run space = second.run space) :
    (runChecked interceptors frame first).run space =
      (runChecked interceptors frame second).run space := by
  unfold runChecked
  simp only [ExceptT.run_mk]
  rw [h]

theorem runChecked_nil (frame : Frame) (body : Run Value) (space : ObjectSpace) :
    (runChecked [] frame body).run space = body.run space := by
  have hunchecked : space.checkAllArguments frame.member frame.arguments
      (space.signaturesFor frame.member []) = .ok () := rfl
  rcases hrun : body.run space with ⟨outcome, after⟩
  simp only [runChecked, ExceptT.run_mk, hunchecked, hrun]
  cases outcome with
  | error error => exact congrArg (Prod.mk _) (after.recordOutcome_nil frame none (some error))
  | ok value => exact congrArg (Prod.mk _) (after.recordOutcome_nil frame (some value) none)

section Checked

variable {interceptors : List ScopeId} {frame : Frame} {body : Run Value}
  {space after : ObjectSpace} {value : Value} {error : CallError}

theorem runChecked_of_arguments_refused
    (hrefused : space.checkAllArguments frame.member frame.arguments
      (space.signaturesFor frame.member interceptors) = .error error) :
    (runChecked interceptors frame body).run space =
      (.error error, space.recordOutcome interceptors frame none (some error)) := by
  simp only [runChecked, ExceptT.run_mk, hrefused]

theorem runChecked_of_body_failed
    (hpass : space.checkAllArguments frame.member frame.arguments
      (space.signaturesFor frame.member interceptors) = .ok ())
    (hbody : body.run space = (.error error, after)) :
    (runChecked interceptors frame body).run space =
      (.error error, after.recordOutcome interceptors frame none (some error)) := by
  simp only [runChecked, ExceptT.run_mk, hpass, hbody]

theorem runChecked_of_result_refused
    (hpass : space.checkAllArguments frame.member frame.arguments
      (space.signaturesFor frame.member interceptors) = .ok ())
    (hbody : body.run space = (.ok value, after))
    (hrefused : after.checkAllResults frame.member value
      (space.signaturesFor frame.member interceptors).reverse = .error error) :
    (runChecked interceptors frame body).run space =
      (.error error, after.recordOutcome interceptors frame (some value) (some error)) := by
  simp only [runChecked, ExceptT.run_mk, hpass, hbody, hrefused]

theorem runChecked_of_returned
    (hpass : space.checkAllArguments frame.member frame.arguments
      (space.signaturesFor frame.member interceptors) = .ok ())
    (hbody : body.run space = (.ok value, after))
    (haccepted : after.checkAllResults frame.member value
      (space.signaturesFor frame.member interceptors).reverse = .ok ()) :
    (runChecked interceptors frame body).run space =
      (.ok value, after.recordOutcome interceptors frame (some value) none) := by
  simp only [runChecked, ExceptT.run_mk, hpass, hbody, haccepted]

end Checked

/-- The equation of dispatch: bodies call members one level deeper. -/
theorem dispatchAt_run
    (reentries depth : Nat) (mode : CallMode) (receiver : Value) (member : Symbol)
    (arguments : Arguments) (space : ObjectSpace) :
    (dispatchAt (callFromOutside reentries) depth mode receiver member arguments).run space =
      if space.settings.maxCallDepth ≤ depth then
        (.error (.depthExceeded space.settings.maxCallDepth), space)
      else
        match space.resolveCall mode receiver member arguments with
        | .error error => (.error error, space)
        | .ok (found, bound) =>
            (runChecked found.interceptors ⟨receiver, member, bound, depth + 1⟩
              (found.member.body.run (.below reentries depth)
                ⟨receiver, member, bound, depth + 1⟩)).run space := by
  simp only [dispatchAt, ExceptT.run_mk]
  split
  next hdeep =>
    rw [Nat.sub_eq_zero_of_le hdeep]
    rfl
  next hshallow =>
    obtain ⟨left, hleft⟩ : ∃ left, space.settings.maxCallDepth - depth = left + 1 :=
      ⟨space.settings.maxCallDepth - depth - 1, by omega⟩
    rw [hleft]
    simp only [dispatch, ExceptT.run_mk]
    cases hresolve : space.resolveCall mode receiver member arguments with
    | error error => rfl
    | ok resolved =>
        obtain ⟨⟨found, interceptors⟩, bound⟩ := resolved
        have hagree := dispatch_agree_dispatchAt reentries (depth + 1) left
          space.settings.maxCallDepth (by omega)
        have hbody := Body.run_agree hagree ⟨receiver, member, bound, depth + 1⟩ found.body
          space rfl
        cases interceptors with
        | nil => exact hbody.trans (runChecked_nil _ _ space).symm
        | cons scope rest => exact runChecked_congr hbody

/-! ### What is found, and whether it may be called -/

namespace ObjectSpace

/-- A call that reaches a member along a way, with its arguments bound. -/
structure Admits
    (space : ObjectSpace)
    (depth : Nat)
    (mode : CallMode)
    (receiver : Value)
    (name : Symbol)
    (arguments : Arguments)
    (way : List ScopeId)
    (member : Member)
    (bound : Arguments) : Prop where
  shallow : depth < space.settings.maxCallDepth
  finds : space.Finds receiver name way member
  accessible : space.mayReach member.definition mode = true
  binds : member.definition.parameters.bind arguments = .ok bound

def ArgumentsPass
    (space : ObjectSpace)
    (name : Symbol)
    (way : List ScopeId)
    (bound : Arguments) : Prop :=
  ∀ contract ∈ space.contractsOn name way,
    space.checkArguments contract.1 name contract.2 bound = .ok ()

variable {space : ObjectSpace} {mode : CallMode} {receiver : Value} {name : Symbol}
  {arguments bound : Arguments} {way : List ScopeId} {member : Member}

theorem resolveCall_of_unknown
    (hnone : ∀ scope ∈ space.scopes.lookupChain receiver, space.ownMember? scope name = none) :
    space.resolveCall mode receiver name arguments =
      .error (.noMethod name (space.describe receiver)) := by
  simp only [resolveCall, resolve?_eq_none_iff.mpr hnone]

theorem resolveCall_of_inaccessible
    (hfinds : space.Finds receiver name way member)
    (hreach : space.mayReach member.definition mode = false) :
    space.resolveCall mode receiver name arguments =
      .error (.inaccessible member.definition.name member.definition.visibility
        (space.describe receiver)) := by
  simp [resolveCall, resolve?_of_finds hfinds, hreach]

theorem resolveCall_of_unbound
    {error : BindError}
    (hfinds : space.Finds receiver name way member)
    (hreach : space.mayReach member.definition mode = true)
    (hbind : member.definition.parameters.bind arguments = .error error) :
    space.resolveCall mode receiver name arguments = .error (.binding name error) := by
  simp [resolveCall, resolve?_of_finds hfinds, hreach, hbind]

theorem resolveCall_of_admits
    {depth : Nat}
    (hadmits : space.Admits depth mode receiver name arguments way member bound) :
    space.resolveCall mode receiver name arguments =
      .ok (⟨member, space.checkersOn name way⟩, bound) :=
  resolveCall_eq_ok_iff.mpr ⟨way, hadmits.finds, rfl, hadmits.accessible, hadmits.binds⟩

end ObjectSpace

/-! ### The ways in which a call is decided -/

section Decision

variable (reentries depth : Nat) (mode : CallMode) (receiver : Value) (member : Symbol)
  (arguments : Arguments) (space : ObjectSpace)

/-- The ways in which a call can be decided, with its outcome and the object
space after it.  Contracts check arguments from the nearest scope on, and
results from the farthest scope on. -/
inductive CallDecision : Except CallError Value → ObjectSpace → Prop
  | tooDeep (hdeep : space.settings.maxCallDepth ≤ depth) :
      CallDecision (.error (.depthExceeded space.settings.maxCallDepth)) space
  | unknown
      (hshallow : depth < space.settings.maxCallDepth)
      (hnone : ∀ scope ∈ space.scopes.lookupChain receiver,
        space.ownMember? scope member = none) :
      CallDecision (.error (.noMethod member (space.describe receiver))) space
  | inaccessible {way : List ScopeId} {found : Member}
      (hshallow : depth < space.settings.maxCallDepth)
      (hfinds : space.Finds receiver member way found)
      (hreach : space.mayReach found.definition mode = false) :
      CallDecision
        (.error (.inaccessible found.definition.name found.definition.visibility
          (space.describe receiver)))
        space
  | unbound {way : List ScopeId} {found : Member} {error : BindError}
      (hshallow : depth < space.settings.maxCallDepth)
      (hfinds : space.Finds receiver member way found)
      (hreach : space.mayReach found.definition mode = true)
      (hbind : found.definition.parameters.bind arguments = .error error) :
      CallDecision (.error (.binding member error)) space
  | argumentRefused {way : List ScopeId} {found : Member} {bound : Arguments}
      {violation : ArgumentViolation}
      (hadmits : space.Admits depth mode receiver member arguments way found bound)
      (hrefused : FirstFailure
        (fun contract => space.checkArguments contract.1 member contract.2 bound)
        (space.contractsOn member way) violation) :
      CallDecision (.error (.argumentType violation))
        (space.recordOutcome (space.checkersOn member way)
          ⟨receiver, member, bound, depth + 1⟩ none (some (.argumentType violation)))
  | bodyFailed {way : List ScopeId} {found : Member} {bound : Arguments} {error : CallError}
      {after : ObjectSpace}
      (hadmits : space.Admits depth mode receiver member arguments way found bound)
      (hpass : space.ArgumentsPass member way bound)
      (hbody : (found.body.run (.below reentries depth)
        ⟨receiver, member, bound, depth + 1⟩).run space = (.error error, after)) :
      CallDecision (.error error)
        (after.recordOutcome (space.checkersOn member way)
          ⟨receiver, member, bound, depth + 1⟩ none (some error))
  | resultRefused {way : List ScopeId} {found : Member} {bound : Arguments} {value : Value}
      {after : ObjectSpace} {violation : ResultViolation}
      (hadmits : space.Admits depth mode receiver member arguments way found bound)
      (hpass : space.ArgumentsPass member way bound)
      (hbody : (found.body.run (.below reentries depth)
        ⟨receiver, member, bound, depth + 1⟩).run space = (.ok value, after))
      (hrefused : FirstFailure
        (fun contract => after.checkResult contract.1 member contract.2 value)
        (space.contractsOn member way).reverse violation) :
      CallDecision (.error (.resultType violation))
        (after.recordOutcome (space.checkersOn member way)
          ⟨receiver, member, bound, depth + 1⟩ (some value) (some (.resultType violation)))
  | returned {way : List ScopeId} {found : Member} {bound : Arguments} {value : Value}
      {after : ObjectSpace}
      (hadmits : space.Admits depth mode receiver member arguments way found bound)
      (hpass : space.ArgumentsPass member way bound)
      (hbody : (found.body.run (.below reentries depth)
        ⟨receiver, member, bound, depth + 1⟩).run space = (.ok value, after))
      (haccepted : ∀ contract ∈ space.contractsOn member way,
        after.checkResult contract.1 member contract.2 value = .ok ()) :
      CallDecision (.ok value)
        (after.recordOutcome (space.checkersOn member way)
          ⟨receiver, member, bound, depth + 1⟩ (some value) none)

variable {reentries depth mode receiver member arguments space}

theorem dispatchAt_of_admits
    {way : List ScopeId} {found : Member} {bound : Arguments}
    (hadmits : space.Admits depth mode receiver member arguments way found bound) :
    (dispatchAt (callFromOutside reentries) depth mode receiver member arguments).run space =
      (runChecked (space.checkersOn member way) ⟨receiver, member, bound, depth + 1⟩
        (found.body.run (.below reentries depth)
          ⟨receiver, member, bound, depth + 1⟩)).run space := by
  rw [dispatchAt_run, if_neg (Nat.not_le.mpr hadmits.shallow)]
  simp only [ObjectSpace.resolveCall_of_admits hadmits]

theorem dispatchAt_of_resolveCall_error
    {error : CallError}
    (hshallow : depth < space.settings.maxCallDepth)
    (hresolve : space.resolveCall mode receiver member arguments = .error error) :
    (dispatchAt (callFromOutside reentries) depth mode receiver member arguments).run space =
      (.error error, space) := by
  rw [dispatchAt_run, if_neg (Nat.not_le.mpr hshallow)]
  simp only [hresolve]

theorem CallDecision.run_eq
    {outcome : Except CallError Value} {after : ObjectSpace}
    (h : CallDecision reentries depth mode receiver member arguments space outcome after) :
    (dispatchAt (callFromOutside reentries) depth mode receiver member arguments).run space =
      (outcome, after) := by
  cases h with
  | tooDeep hdeep => rw [dispatchAt_run, if_pos hdeep]
  | unknown hshallow hnone =>
      exact dispatchAt_of_resolveCall_error hshallow (ObjectSpace.resolveCall_of_unknown hnone)
  | inaccessible hshallow hfinds hreach =>
      exact dispatchAt_of_resolveCall_error hshallow
        (ObjectSpace.resolveCall_of_inaccessible hfinds hreach)
  | unbound hshallow hfinds hreach hbind =>
      exact dispatchAt_of_resolveCall_error hshallow
        (ObjectSpace.resolveCall_of_unbound hfinds hreach hbind)
  | argumentRefused hadmits hrefused =>
      rw [dispatchAt_of_admits hadmits]
      apply runChecked_of_arguments_refused
      exact ObjectSpace.checkAllArguments_eq_error_iff.mpr ⟨_, hrefused, rfl⟩
  | bodyFailed hadmits hpass hbody =>
      rw [dispatchAt_of_admits hadmits]
      apply runChecked_of_body_failed _ hbody
      exact ObjectSpace.checkAllArguments_eq_ok_iff.mpr hpass
  | resultRefused hadmits hpass hbody hrefused =>
      rw [dispatchAt_of_admits hadmits]
      apply runChecked_of_result_refused _ hbody
      · exact ObjectSpace.checkAllResults_eq_error_iff.mpr ⟨_, hrefused, rfl⟩
      · exact ObjectSpace.checkAllArguments_eq_ok_iff.mpr hpass
  | returned hadmits hpass hbody haccepted =>
      rw [dispatchAt_of_admits hadmits]
      apply runChecked_of_returned _ hbody
      · apply ObjectSpace.checkAllResults_eq_ok_iff.mpr
        intro contract hcontract
        exact haccepted contract (List.mem_reverse.mp hcontract)
      · exact ObjectSpace.checkAllArguments_eq_ok_iff.mpr hpass

theorem ObjectSpace.perform_call_of_returned
    {value : Value} {after : ObjectSpace}
    (h : CallDecision maxReentries 0 .external receiver member arguments space (.ok value) after) :
    space.perform (.call receiver member arguments) = (.ok (.value value), after) :=
  Action.run_respond_eq_ok_iff.mpr
    ⟨value, Action.run_respond_eq_ok_iff.mpr ⟨value, h.run_eq, rfl⟩, rfl⟩

theorem ObjectSpace.perform_call_of_failed
    {error : CallError} {after : ObjectSpace}
    (h : CallDecision maxReentries 0 .external receiver member arguments space (.error error)
      after) :
    space.perform (.call receiver member arguments) = (.error (.call error), after) :=
  Action.run_respond_eq_error_iff.mpr
    ⟨.call error, Action.run_respond_eq_error_iff.mpr ⟨error, h.run_eq, rfl⟩, rfl⟩

theorem CallDecision.exists_of_argumentsPass
    (reentries : Nat) {way : List ScopeId} {found : Member} {bound : Arguments}
    (hadmits : space.Admits depth mode receiver member arguments way found bound)
    (hpass : space.ArgumentsPass member way bound) :
    ∃ outcome returned error,
      CallDecision reentries depth mode receiver member arguments space outcome
        (((found.body.run (.below reentries depth)
          ⟨receiver, member, bound, depth + 1⟩).run space).2.recordOutcome
            (space.checkersOn member way) ⟨receiver, member, bound, depth + 1⟩
            returned error) := by
  rcases hbody : (found.body.run (.below reentries depth)
    ⟨receiver, member, bound, depth + 1⟩).run space with ⟨outcome, after⟩
  cases outcome with
  | error error => exact ⟨_, _, _, .bodyFailed hadmits hpass hbody⟩
  | ok value =>
      cases hresults : after.checkAllResults member value
        (space.contractsOn member way).reverse with
      | error error =>
          obtain ⟨violation, hrefused, -⟩ :=
            ObjectSpace.checkAllResults_eq_error_iff.mp hresults
          exact ⟨_, _, _, .resultRefused hadmits hpass hbody hrefused⟩
      | ok passed =>
          have haccepted := ObjectSpace.checkAllResults_eq_ok_iff.mp hresults
          exact ⟨_, _, _, .returned hadmits hpass hbody fun contract hcontract =>
            haccepted contract (List.mem_reverse.mpr hcontract)⟩

theorem CallDecision.exists_of_no_argumentsPass
    (reentries : Nat)
    (hnone : ¬ ∃ way found bound,
      space.Admits depth mode receiver member arguments way found bound ∧
        space.ArgumentsPass member way bound) :
    ∃ error after,
      CallDecision reentries depth mode receiver member arguments space (.error error) after ∧
        (after = space ∨ ∃ interceptors frame error,
          after = space.recordOutcome interceptors frame none (some error)) := by
  by_cases hdeep : space.settings.maxCallDepth ≤ depth
  · exact ⟨_, _, .tooDeep hdeep, .inl rfl⟩
  have hshallow := Nat.not_le.mp hdeep
  cases hresolve : space.resolve? receiver member with
  | none =>
      exact ⟨_, _, .unknown hshallow (ObjectSpace.resolve?_eq_none_iff.mp hresolve), .inl rfl⟩
  | some resolution =>
      obtain ⟨found, checkers⟩ := resolution
      obtain ⟨way, hfinds, -⟩ := ObjectSpace.resolve?_eq_some_iff.mp hresolve
      cases hreach : space.mayReach found.definition mode with
      | false => exact ⟨_, _, .inaccessible hshallow hfinds hreach, .inl rfl⟩
      | true =>
          cases hbind : found.definition.parameters.bind arguments with
          | error error => exact ⟨_, _, .unbound hshallow hfinds hreach hbind, .inl rfl⟩
          | ok bound =>
              have hadmits : space.Admits depth mode receiver member arguments way found bound :=
                ⟨hshallow, hfinds, hreach, hbind⟩
              cases harguments : space.checkAllArguments member bound
                (space.contractsOn member way) with
              | ok passed =>
                  have hpass := ObjectSpace.checkAllArguments_eq_ok_iff.mp harguments
                  exact (hnone ⟨way, found, bound, hadmits, hpass⟩).elim
              | error error =>
                  obtain ⟨violation, hrefused, -⟩ :=
                    ObjectSpace.checkAllArguments_eq_error_iff.mp harguments
                  exact ⟨_, _, .argumentRefused hadmits hrefused, .inr ⟨_, _, _, rfl⟩⟩

variable (reentries depth mode receiver member arguments space)

/-- A call takes exactly one of the ways in which it can be decided.  Its body
runs once if the call is admitted and its arguments pass every contract, and
all that is added to what the body did is one entry of the trace; otherwise
nothing but such an entry is new. -/
theorem dispatchAt_decided :
    (∀ outcome after,
      CallDecision reentries depth mode receiver member arguments space outcome after ↔
        (dispatchAt (callFromOutside reentries) depth mode receiver member arguments).run space =
          (outcome, after)) ∧
    (∀ way found bound,
      space.Admits depth mode receiver member arguments way found bound →
      space.ArgumentsPass member way bound →
        let ran := (found.body.run (.below reentries depth)
          ⟨receiver, member, bound, depth + 1⟩).run space
        let called :=
          (dispatchAt (callFromOutside reentries) depth mode receiver member arguments).run space
        called.2 = ran.2 ∨ ∃ entry, called.2 = ran.2.recordCall entry) ∧
    ((¬ ∃ way found bound,
      space.Admits depth mode receiver member arguments way found bound ∧
        space.ArgumentsPass member way bound) →
        let called :=
          (dispatchAt (callFromOutside reentries) depth mode receiver member arguments).run space
        called.2 = space ∨ ∃ entry, called.2 = space.recordCall entry) := by
  refine ⟨?_, ?_, ?_⟩
  · intro outcome after
    constructor
    · exact CallDecision.run_eq
    · intro hrun
      by_cases hpasses : ∃ way found bound,
        space.Admits depth mode receiver member arguments way found bound ∧
          space.ArgumentsPass member way bound
      · obtain ⟨way, found, bound, hadmits, hpass⟩ := hpasses
        obtain ⟨_, _, _, hdecision⟩ :=
          CallDecision.exists_of_argumentsPass reentries hadmits hpass
        have hsame := hdecision.run_eq.symm.trans hrun
        obtain ⟨rfl, rfl⟩ := Prod.mk.inj hsame
        exact hdecision
      · obtain ⟨_, _, hdecision, -⟩ :=
          CallDecision.exists_of_no_argumentsPass reentries hpasses
        have hsame := hdecision.run_eq.symm.trans hrun
        obtain ⟨rfl, rfl⟩ := Prod.mk.inj hsame
        exact hdecision
  · intro way found bound hadmits hpass
    obtain ⟨outcome, returned, error, hdecision⟩ :=
      CallDecision.exists_of_argumentsPass reentries hadmits hpass
    intro ran called
    have hcalled : called = _ := hdecision.run_eq
    rw [hcalled]
    exact ran.2.recordOutcome_eq _ _ returned error
  · intro hnone
    obtain ⟨error, after, hdecision, hafter⟩ :=
      CallDecision.exists_of_no_argumentsPass reentries hnone
    intro called
    have hcalled : called = _ := hdecision.run_eq
    rw [hcalled]
    rcases hafter with rfl | ⟨interceptors, frame, error, rfl⟩
    · exact .inl rfl
    · exact space.recordOutcome_eq interceptors frame none (some error)

theorem dispatchAt_decided_for_a_contracted_member :
    ∃ (space : ObjectSpace) (way : List ScopeId) (found : Member),
      space.Admits 0 .external .nil ⟨"nil?"⟩ ⟨[], []⟩ way found ⟨[], []⟩ ∧
        (space.contractsOn ⟨"nil?"⟩ way).length = 1 ∧
          let ran := (found.body.run (.below 0 0) ⟨.nil, ⟨"nil?"⟩, ⟨[], []⟩, 1⟩).run space
          let called :=
            (dispatchAt (callFromOutside 0) 0 .external .nil ⟨"nil?"⟩ ⟨[], []⟩).run space
          called.2 = ran.2 ∨ ∃ entry, called.2 = ran.2.recordCall entry := by
  let found := Builtin.member (.kernel, "nil?", false, .isNil)
  let space : ObjectSpace := ObjectSpace.registerSignature
    ⟨⟨0⟩, .standard, .initial, [(⟨.kernel, ⟨"nil?"⟩⟩, found)], [], [], [], ⟨1⟩, [], [], []⟩
    .object ⟨"nil?"⟩ ⟨[], [], .anything⟩
  let way : List ScopeId := [.nilClass, .object, .kernel]
  have hskipped : ∀ scope ∈ [ScopeId.nilClass, .object],
      space.ownMember? scope ⟨"nil?"⟩ = none := by
    intro scope hscope
    rw [List.mem_cons, List.mem_singleton] at hscope
    rcases hscope with rfl | rfl <;> rfl
  have hfinds : space.Finds .nil ⟨"nil?"⟩ way found :=
    ⟨[.nilClass, .object], .kernel, [.basicObject], rfl, rfl, hskipped, rfl⟩
  have hadmits : space.Admits 0 .external .nil ⟨"nil?"⟩ ⟨[], []⟩ way found ⟨[], []⟩ :=
    ⟨by decide, hfinds, rfl, rfl⟩
  have hpass : space.ArgumentsPass ⟨"nil?"⟩ way ⟨[], []⟩ := by
    have hcontracts : space.contractsOn ⟨"nil?"⟩ way = [(.object, ⟨[], [], .anything⟩)] := rfl
    intro contract hcontract
    rw [hcontracts, List.mem_singleton] at hcontract
    subst hcontract
    rfl
  exact ⟨space, way, found, hadmits, rfl,
    (dispatchAt_decided 0 0 .external .nil ⟨"nil?"⟩ ⟨[], []⟩ space).2.1 way found ⟨[], []⟩
      hadmits hpass⟩

end Decision

end CallContract
