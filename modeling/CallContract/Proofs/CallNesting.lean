import CallContract.Proofs.Discipline
import CallContract.Proofs.ExecutionOutcome

/-!
# How deep calls are nested

Where bodies call members from within only, the depth of a call is the number of
bodies that are active: those that wait stand at the depths of their places, and the
one that runs stands on top of them.  So the limit on the depth is a limit on the
active bodies, whatever members call each other, and a call that would exceed it is
refused before anything else about it is looked at.
-/

namespace CallContract

/-- Bodies that reach members by calls from within only. -/
def Discipline.inward : Discipline :=
  ⟨fun _ => True, False⟩

/-- Waiting bodies at the depths of their places, within a limit. -/
def AreNested (limit : Nat) : List Suspension → Prop
  | [] => True
  | suspended :: rest =>
      suspended.activation.frame.depth = rest.length + 1 ∧ rest.length < limit ∧
        AreNested limit rest

/-- What an execution is about above a number of waiting bodies. -/
def Control.IsAbove (limit waiting : Nat) : Control → Prop
  | .answered _ | .entering _ _ => waiting = 0
  | .calling _ depth _ => depth = waiting
  | .running activation _ => activation.frame.depth = waiting + 1 ∧ waiting < limit
  | .returning _ => True

namespace Execution

/-- The bodies that have begun and have not come to their end. -/
def active (now : Execution) : Nat :=
  match now.control with
  | .running _ _ => now.waiting.length + 1
  | _ => now.waiting.length

structure IsNested (limit : Nat) (now : Execution) : Prop where
  keeps : now.Keeps .inward
  settings : now.space.settings.maxCallDepth = limit
  waiting : AreNested limit now.waiting
  control : now.control.IsAbove limit now.waiting.length

variable {limit : Nat} {now next : Execution} {happening : List Happening}

theorem length_le_of_areNested {waiting : List Suspension} (h : AreNested limit waiting) :
    waiting.length ≤ limit := by
  cases waiting with
  | nil => exact Nat.zero_le _
  | cons suspended rest => exact h.2.1

theorem asCall?_of_inward {operation : Operation} (h : operation.Keeps .inward) :
    operation.asCall? = none := by
  cases operation with
  | call | send => exact h.elim
  | _ => rfl

/-- A body that calls is put on the stack at its own depth, where it is taken up
again when the call returns. -/
theorem IsNested.step (h : now.IsNested limit) (hstep : Step now happening next) :
    next.IsNested limit := by
  have hkeeps := h.keeps.step hstep
  have hsettings := hstep.settings ▸ h.settings
  obtain ⟨hbefore, hlimit, hwaiting, hcontrol⟩ := h
  cases hstep with
  | takeUp | takeUpCall | observe | perform => exact ⟨hkeeps, hsettings, hwaiting, hcontrol⟩
  | enter => exact ⟨hkeeps, hsettings, hwaiting, Eq.symm hcontrol⟩
  | tooDeep | refuse | refuseArguments | finish =>
      exact ⟨hkeeps, hsettings, hwaiting, trivial⟩
  | answer => exact ⟨hkeeps, hsettings, hwaiting, rfl⟩
  | begin hshallow _ hactivation _ =>
      refine ⟨hkeeps, hsettings, hwaiting, ?_, ?_⟩
      · rw [hactivation]
        exact congrArg (· + 1) hcontrol
      · exact Nat.lt_of_le_of_lt (Nat.le_of_eq (Eq.symm hcontrol)) (hlimit ▸ hshallow)
  | call | send =>
      obtain ⟨hdepth, hless⟩ := hcontrol
      exact ⟨hkeeps, hsettings, ⟨hdepth, hless, hwaiting⟩, hdepth⟩
  | cutOff hcall | performCall hcall =>
      rw [asCall?_of_inward hbefore.control.1] at hcall
      cases hcall
  | resume =>
      obtain ⟨hdepth, hless, hrest⟩ := hwaiting
      exact ⟨hkeeps, hsettings, hrest, hdepth, hless⟩

theorem IsNested.active_le (h : now.IsNested limit) : now.active ≤ limit := by
  have hwaiting := length_le_of_areNested h.waiting
  have hcontrol := h.control
  unfold active
  split
  next heq =>
    rw [heq] at hcontrol
    exact hcontrol.2
  next => exact hwaiting

/-- A call is decided at the depth of the bodies that are active, and at the limit
it is refused at once. -/
theorem IsNested.calling
    (h : now.IsNested limit) {reentries depth : Nat} {invocation : Invocation}
    (hcalling : now.control = .calling reentries depth invocation) :
    depth = now.active ∧
      (now.active = limit →
        now.step? = some ([.dispatched now.space reentries depth invocation],
          { now with control := .returning (.error (.depthExceeded limit)) })) := by
  obtain ⟨control, waiting, agenda, space⟩ := now
  obtain rfl : control = _ := hcalling
  have hdepth : depth = waiting.length := h.control
  obtain rfl : space.settings.maxCallDepth = limit := h.settings
  refine ⟨hdepth, fun hactive => ?_⟩
  have hdeep : space.settings.maxCallDepth ≤ depth :=
    Nat.le_of_eq (hdepth.trans hactive).symm
  simp only [step?, decide, if_pos hdeep]

theorem isNested_start
    {space : ObjectSpace} (hbodies : space.Keeps .inward) {operation : Operation}
    {invocation : Invocation} (hcall : operation.asCall? = some invocation) :
    (start space [operation]).IsNested space.settings.maxCallDepth := by
  have hdefines : ∀ other ∈ [operation], other.Defines (·.Keeps .inward) := by
    intro other hother
    rw [List.mem_singleton.mp hother]
    cases operation with
    | defineMember => cases hcall
    | _ => trivial
  exact ⟨keeps_start hbodies hdefines, rfl, trivial, rfl⟩

/-- A call from outside, of members that may call each other and themselves in any
circle, never has more bodies active than the limit on the depth.  A call from within
as many is refused with that limit, whatever it calls, and changes nothing.  And the
call comes to its end, with the outcome and the object space that dispatch has. -/
theorem nesting_is_bounded_and_ends
    {space : ObjectSpace} (hbodies : space.Keeps .inward) {operation : Operation}
    {invocation : Invocation} (hcall : operation.asCall? = some invocation) :
    (∀ steps happened now, (start space [operation]).after? steps = some (happened, now) →
      now.active ≤ space.settings.maxCallDepth ∧
        ∀ reentries depth called, now.control = .calling reentries depth called →
          depth = now.active ∧
            (now.active = space.settings.maxCallDepth →
              now.step? = some ([.dispatched now.space reentries depth called], { now with
                control := .returning (.error (.depthExceeded space.settings.maxCallDepth)) }))) ∧
      ∃ steps happened last, (start space [operation]).after? steps = some (happened, last) ∧
        last.step? = none ∧ last.control = .answered (space.perform operation).1 ∧
          last.space = (space.perform operation).2 := by
  constructor
  · intro steps happened now hafter
    have hnested := after?_invariant (fun _ _ _ hbefore hstep => IsNested.step hbefore hstep)
      (isNested_start hbodies hcall) hafter
    exact ⟨hnested.active_le, fun _ _ _ => hnested.calling⟩
  · obtain ⟨happened, -, steps, hsteps⟩ := answered_comesTo (.ok .done) operation [] space
    exact ⟨steps, happened, _, hsteps, rfl, rfl, rfl⟩

/-- Two members that call each other without end, under a limit of two. -/
def spaceWithCircle : ObjectSpace :=
  let calling (own other : String) : MemberKey × Member :=
    (⟨.object, ⟨own⟩⟩, ⟨⟨⟨own⟩, .object, .publicAccess, .none⟩,
      .script fun frame => .call frame.receiver ⟨other⟩ ⟨[], []⟩ .finish⟩)
  ⟨⟨0⟩, { Settings.standard with maxCallDepth := 2 }, .initial,
    [calling "ping" "pong", calling "pong" "ping"], [], [], [], ⟨1⟩, [], [], []⟩

theorem nesting_is_bounded_and_ends_in_a_circle :
    spaceWithCircle.Keeps .inward ∧
      (∃ happened now, (start spaceWithCircle [.call .nil ⟨"ping"⟩ ⟨[], []⟩]).after? 6 =
          some (happened, now) ∧ now.active = 2 ∧
        ∃ told, now.step? =
          some (told, { now with control := .returning (.error (.depthExceeded 2)) })) ∧
        ∃ steps happened last, (start spaceWithCircle [.call .nil ⟨"ping"⟩ ⟨[], []⟩]).after?
            steps = some (happened, last) ∧ last.step? = none ∧
          last.control = .answered (.error (.call (.depthExceeded 2))) := by
  have hbodies : spaceWithCircle.Keeps .inward := by
    intro key member hfound
    change Table.get? [(_, _), (_, _)] key = _ at hfound
    rw [Table.get?_cons, Table.get?_cons, Table.get?_nil] at hfound
    split at hfound
    next =>
      cases hfound
      exact fun _ _ => trivial
    next =>
      split at hfound
      next =>
        cases hfound
        exact fun _ _ => trivial
      next => cases hfound
  have hcall : Operation.asCall? (.call .nil ⟨"ping"⟩ ⟨[], []⟩) =
      some ⟨.external, .nil, ⟨"ping"⟩, ⟨[], []⟩⟩ := rfl
  obtain ⟨hmoments, steps, happened, last, hlast, hend, hanswer, -⟩ :=
    nesting_is_bounded_and_ends hbodies hcall
  obtain ⟨-, hcalling⟩ := hmoments 6 _ _ rfl
  have hrefused := (hcalling _ _ _ rfl).2 rfl
  exact ⟨hbodies, ⟨_, _, rfl, rfl, _, hrefused⟩, steps, happened, last, hlast, hend, hanswer⟩

end Execution

end CallContract
