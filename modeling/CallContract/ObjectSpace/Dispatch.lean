import CallContract.ObjectSpace.Builtin
import CallContract.ObjectSpace.Checking
import CallContract.ObjectSpace.Operation

/-!
# Dispatch

A call is decided in a fixed order: the depth of nested calls, whether a
member is found, whether the caller may reach it, and whether the arguments
can be bound.  Then, if scopes on the way to the member check it, their
argument checks surround the body together with their result checks; the
signatures are those in force when the checks begin.

A body takes finitely many steps, and calls that it makes are one level
deeper, so recursion ends with the levels.  A call from outside starts at level
zero again, and nothing in an object space limits the number of such calls
inside each other.  They are followed down to a fixed number and cut off there,
which has no counterpart at work: bodies that go on so never come back.
-/

namespace CallContract

/-- The ways in which a body may call members. -/
structure Reentry where
  fromBody : CallMode → Value → Symbol → Arguments → Run Value
  fromOutside : OutsideCalls

/-- Runs a program for a frame. -/
def Program.run (reentry : Reentry) (frame : Frame) : Program → Run Value
  | .finish outcome => ExceptT.mk fun space => (outcome, space)
  | .observe next => ExceptT.mk fun space => ((next space.observe).run reentry frame).run space
  | .call receiver member arguments next =>
      (reentry.fromBody (.nested frame.receiver) receiver member arguments).handle
        fun outcome => (next outcome).run reentry frame
  | .send member arguments next =>
      (reentry.fromBody .selfSend frame.receiver member arguments).handle
        fun outcome => (next outcome).run reentry frame
  | .perform operation next =>
      (operation.perform reentry.fromOutside).handle
        fun outcome => (next outcome).run reentry frame

def Body.run (reentry : Reentry) (frame : Frame) : Body → Run Value
  | .builtin operation =>
      Action.step id fun space => (operation.run space frame).map fun value => (value, space)
  | .reader name => do
      pure ((← get).readVariable frame.receiver name)
  | .writer name =>
      Action.step id fun space =>
        (space.writeVariable frame.receiver name (frame.argument 0)).map fun space =>
          (frame.argument 0, space)
  | .script program => (program frame).run reentry frame

namespace ObjectSpace

/-- Whether a member may be reached in a mode.  A protected member is open to
bodies that run for an instance of its owner. -/
def mayReach (space : ObjectSpace) (definition : MemberDefinition) : CallMode → Bool
  | .selfSend => true
  | .external => definition.visibility == .publicAccess
  | .nested caller =>
      match definition.visibility with
      | .publicAccess => true
      | .protectedAccess => space.scopes.isInstanceOf caller definition.owner
      | .privateAccess => false

/-- Finds the member of a call and binds its arguments. -/
def resolveCall
    (space : ObjectSpace)
    (mode : CallMode)
    (receiver : Value)
    (member : Symbol)
    (arguments : Arguments) : Except CallError (Resolution × Arguments) :=
  match space.resolve? receiver member with
  | none => .error (.noMethod member (space.describe receiver))
  | some found =>
      let definition := found.member.definition
      if space.mayReach definition mode then
        match definition.parameters.bind arguments with
        | .ok bound => .ok (found, bound)
        | .error error => .error (.binding member error)
      else
        .error (.inaccessible definition.name definition.visibility (space.describe receiver))

/-- Records a checked call under the nearest scope that checks it. -/
def recordOutcome
    (space : ObjectSpace)
    (interceptors : List ScopeId)
    (frame : Frame)
    (returned : Option Value)
    (error : Option CallError) : ObjectSpace :=
  match space.settings.traceEnabled, interceptors with
  | true, scope :: _ =>
      space.recordCall
        ⟨scope, frame.member, frame.arguments, returned, error.map CallError.message⟩
  | _, _ => space

section Recording

variable (space : ObjectSpace) (interceptors : List ScopeId) (frame : Frame)
  (returned : Option Value) (error : Option CallError)

theorem recordOutcome_nil : space.recordOutcome [] frame returned error = space := by
  unfold recordOutcome
  split
  next hinterceptors => cases hinterceptors
  next => rfl

theorem recordOutcome_eq :
    space.recordOutcome interceptors frame returned error = space ∨
      ∃ entry, space.recordOutcome interceptors frame returned error = space.recordCall entry := by
  unfold recordOutcome
  split
  next => exact .inr ⟨_, rfl⟩
  next => exact .inl rfl

theorem recordOutcome_writes_trace :
    ∃ entries, space.recordOutcome interceptors frame returned error =
      { space with trace := entries } := by
  rcases space.recordOutcome_eq interceptors frame returned error with hkept | ⟨entry, hrecorded⟩
  · exact ⟨space.trace, hkept⟩
  · exact ⟨_, hrecorded⟩

end Recording

end ObjectSpace

/-- Runs a body between the checks of the scopes that intercept it. -/
def runChecked
    (interceptors : List ScopeId)
    (frame : Frame)
    (body : Run Value) : Run Value :=
  ExceptT.mk fun space =>
    let signatures := space.signaturesFor frame.member interceptors
    match space.checkAllArguments frame.member frame.arguments signatures with
    | .error error => (.error error, space.recordOutcome interceptors frame none (some error))
    | .ok () =>
        match body.run space with
        | (.error error, after) =>
            (.error error, after.recordOutcome interceptors frame none (some error))
        | (.ok value, after) =>
            match after.checkAllResults frame.member value signatures.reverse with
            | .error error =>
                (.error error,
                  after.recordOutcome interceptors frame (some value) (some error))
            | .ok () => (.ok value, after.recordOutcome interceptors frame (some value) none)

/-- Dispatches a call at a depth, with a number of levels left. -/
def dispatch (fromOutside : OutsideCalls) :
    Nat → Nat → CallMode → Value → Symbol → Arguments → Run Value
  | 0, _, _, _, _, _ =>
      ExceptT.mk fun space => (.error (.depthExceeded space.settings.maxCallDepth), space)
  | left + 1, depth, mode, receiver, member, arguments =>
      ExceptT.mk fun space =>
        match space.resolveCall mode receiver member arguments with
        | .error error => (.error error, space)
        | .ok (found, bound) =>
            let frame : Frame := ⟨receiver, member, bound, depth + 1⟩
            let body :=
              found.member.body.run ⟨dispatch fromOutside left (depth + 1), fromOutside⟩ frame
            if found.interceptors.isEmpty then body.run space
            else (runChecked found.interceptors frame body).run space

/-- Dispatches a call at a depth. -/
def dispatchAt
    (fromOutside : OutsideCalls)
    (depth : Nat)
    (mode : CallMode)
    (receiver : Value)
    (member : Symbol)
    (arguments : Arguments) : Run Value :=
  ExceptT.mk fun space =>
    (dispatch fromOutside (space.settings.maxCallDepth - depth) depth mode receiver member
      arguments).run space

/-- A call from outside that may hold a number of such calls inside each other. -/
def callFromOutside : Nat → OutsideCalls
  | 0, _, _, _, _ => throw .cutOff
  | reentries + 1, mode, receiver, member, arguments =>
      (dispatchAt (callFromOutside reentries) 0 mode receiver member arguments).respond .call id

/-- So many calls from outside are followed inside each other; no setting and no
error of a call knows of this number. -/
def maxReentries : Nat :=
  4096

namespace ObjectSpace

/-- The outcome of an operation and the object space after it. -/
def perform
    (space : ObjectSpace)
    (operation : Operation) : Except Failure Response × ObjectSpace :=
  (operation.perform (callFromOutside (maxReentries + 1))).run space

theorem perform_eq_inSteps (space : ObjectSpace) (operation : Operation) :
    space.perform operation =
      (operation.inSteps (callFromOutside (maxReentries + 1))).run space := by
  rw [perform, Operation.perform_eq_inSteps]

end ObjectSpace

end CallContract
