import CallContract.Proofs.Execution
import CallContract.Proofs.Resolution
import CallContract.Proofs.Simulation

/-!
# Disciplines of bodies

A discipline says how programs may look at their object space and whether they may
call members from outside again.  Bodies that keep it define such bodies only, so an
execution in which all bodies keep a discipline never meets one that does not.
-/

namespace CallContract

structure Discipline where
  /-- How a program may go on from what it sees. -/
  observes : (Observation → Program) → Prop
  /-- Whether programs may call from outside. -/
  reenters : Prop

mutual

def Program.Keeps (discipline : Discipline) : Program → Prop
  | .finish _ => True
  | .observe next => discipline.observes next ∧ ∀ seen, (next seen).Keeps discipline
  | .call _ _ _ next => ∀ outcome, (next outcome).Keeps discipline
  | .send _ _ next => ∀ outcome, (next outcome).Keeps discipline
  | .perform operation next =>
      operation.Keeps discipline ∧ ∀ outcome, (next outcome).Keeps discipline

def Body.Keeps (discipline : Discipline) : Body → Prop
  | .builtin _ | .reader _ | .writer _ => True
  | .script program => ∀ frame, (program frame).Keeps discipline

def Operation.Keeps (discipline : Discipline) : Operation → Prop
  | .defineMember _ _ _ _ body => body.Keeps discipline
  | .call .. | .send .. => discipline.reenters
  | .defineClass .. | .defineModule .. | .includeModule .. | .newObject .. | .singleton .. => True
  | .setVisibility .. | .writeVariable .. | .clearTrace | .typedAccessors .. => True
  | .register .. | .contract .. | .contractSelf .. | .contractOn .. | .annotate .. => True

end

theorem Operation.Keeps.defines
    {discipline : Discipline} {operation : Operation} (h : operation.Keeps discipline) :
    operation.Defines (·.Keeps discipline) := by
  cases operation with
  | defineMember => exact h
  | _ => trivial

theorem Operation.performAtOnce_respects
    {related : ObjectSpace → ObjectSpace → Prop} {allowed : Body → Prop}
    (hsim : ObjectSpace.Simulation related allowed) (hkept : ObjectSpace.KeptByContracts related)
    {operation : Operation} (hdefines : operation.Defines allowed)
    (hclear : operation = .clearTrace → ∀ first second : ObjectSpace, related first second →
      related first.clearTrace second.clearTrace) :
    operation.performAtOnce.Respects related :=
  operation.perform_respects hsim
    (fun _ _ _ _ _ => Action.respects_throw Failure.cutOff) hdefines (fun _ => hkept)
    hclear

/-- The bodies of all members keep a discipline. -/
def ObjectSpace.Keeps (discipline : Discipline) (space : ObjectSpace) : Prop :=
  ∀ key member, space.members.get? key = some member → member.body.Keeps discipline

def Control.Keeps (discipline : Discipline) : Control → Prop
  | .running _ program => program.Keeps discipline
  | _ => True

structure Execution.Keeps (discipline : Discipline) (now : Execution) : Prop where
  control : now.control.Keeps discipline
  waiting : ∀ suspended ∈ now.waiting, ∀ outcome, (suspended.next outcome).Keeps discipline
  agenda : ∀ operation ∈ now.agenda, operation.Defines (·.Keeps discipline)
  space : now.space.Keeps discipline

variable {discipline : Discipline} {space after : ObjectSpace}

/-! ### Spaces -/

theorem ObjectSpace.Keeps.of_members
    (h : space.Keeps discipline) (hmembers : after.members = space.members) :
    after.Keeps discipline := by
  unfold Keeps
  rw [hmembers]
  exact h

theorem ObjectSpace.Keeps.putMember
    (h : space.Keeps discipline) (key : MemberKey) {member : Member}
    (hmember : member.body.Keeps discipline) :
    { space with members := space.members.put key member }.Keeps discipline :=
  fun _ _ => Table.of_get?_put h hmember

/-- The members that every object space starts with keep every discipline. -/
theorem ObjectSpace.keeps_initial
    (discipline : Discipline) (id : SpaceId) (settings : Settings) (registry : Registry) :
    (initial id settings registry).Keeps discipline := by
  have hgeneral : ∀ (entries : List (ScopeId × String × Bool × Builtin)) (space : ObjectSpace),
      space.Keeps discipline →
        (entries.foldl (fun space entry => space.insertMember (Builtin.member entry))
          space).Keeps discipline := by
    intro entries
    induction entries with
    | nil => exact fun _ h => h
    | cons entry rest ih => exact fun space h => ih _ (h.putMember _ trivial)
  exact hgeneral _ _ fun _ _ hfound => by cases hfound

theorem ObjectSpace.keeps_keptByContracts (discipline : Discipline) :
    KeptByContracts fun first second => second = first ∧ first.Keeps discipline where
  pending := fun h => h.1 ▸ rfl
  putPending := fun h _ => ⟨h.1 ▸ rfl, h.2.of_members rfl⟩
  register := fun h _ _ _ => ⟨h.1 ▸ rfl, h.2.of_members rfl⟩

theorem ObjectSpace.keeps_simulation (discipline : Discipline) :
    Simulation (fun first second => second = first ∧ first.Keeps discipline)
      (·.Keeps discipline) where
  scopes := fun h => h.1 ▸ rfl
  members := fun h => h.1 ▸ rfl
  nextObject := fun h => h.1 ▸ rfl
  bodies := fun h => h.2
  reader := fun _ => trivial
  writer := fun _ => trivial
  putScopes := fun h _ => ⟨h.1 ▸ rfl, h.2.of_members rfl⟩
  putMember := fun h key _ hbody => ⟨h.1 ▸ rfl, h.2.putMember key hbody⟩
  putNextObject := fun h _ => ⟨h.1 ▸ rfl, h.2.of_members rfl⟩
  putVariable := fun h _ _ => ⟨h.1 ▸ rfl, h.2.of_members rfl⟩
  consumePending := fun h => (keeps_keptByContracts discipline).consumePending h (h.1 ▸ rfl)

theorem ObjectSpace.Keeps.performAtOnce
    (h : space.Keeps discipline) {operation : Operation}
    (hdefines : operation.Defines (·.Keeps discipline)) :
    (operation.performAtOnce.run space).2.Keeps discipline := by
  have hrespects := Operation.performAtOnce_respects (ObjectSpace.keeps_simulation discipline)
    (ObjectSpace.keeps_keptByContracts discipline) hdefines
    fun _ _ _ hsame => ⟨hsame.1 ▸ rfl, hsame.2.of_members rfl⟩
  exact (hrespects space space ⟨rfl, h⟩).2.2

theorem ObjectSpace.Keeps.recordOutcome
    (h : space.Keeps discipline) (interceptors : List ScopeId) (frame : Frame)
    (returned : Option Value) (error : Option CallError) :
    (space.recordOutcome interceptors frame returned error).Keeps discipline := by
  obtain ⟨entries, hrecorded⟩ :=
    space.recordOutcome_writes_trace interceptors frame returned error
  rw [hrecorded]
  exact h.of_members rfl

theorem ObjectSpace.Keeps.body_of_resolveCall
    (h : space.Keeps discipline) {mode : CallMode} {receiver : Value} {name : Symbol}
    {arguments bound : Arguments} {found : Resolution}
    (hresolve : space.resolveCall mode receiver name arguments = .ok (found, bound)) :
    found.member.body.Keeps discipline := by
  obtain ⟨_, hown⟩ := exists_ownMember?_of_resolveCall hresolve
  exact h _ _ hown

theorem Body.Keeps.begin
    {body : Body} (hbody : body.Keeps discipline) (h : space.Keeps discipline) (frame : Frame) :
    (body.begin frame space).1.Keeps discipline ∧ (body.begin frame space).2.Keeps discipline := by
  cases body with
  | script program => exact ⟨hbody frame, h⟩
  | reader name => exact ⟨trivial, h⟩
  | builtin operation =>
      simp only [Body.begin, Body.run, Action.step, ExceptT.run_mk]
      cases operation.run space frame <;> exact ⟨trivial, h⟩
  | writer name =>
      simp only [Body.begin, Body.run, Action.step, ExceptT.run_mk, ObjectSpace.writeVariable]
      cases frame.receiver.attachment? with
      | none => exact ⟨trivial, h⟩
      | some holder => exact ⟨trivial, h.of_members rfl⟩

/-! ### Executions -/

theorem Execution.keeps_start
    (h : space.Keeps discipline) {operations : List Operation}
    (hoperations : ∀ operation ∈ operations, operation.Defines (·.Keeps discipline)) :
    (start space operations).Keeps discipline :=
  ⟨trivial, fun _ hsuspended => (List.not_mem_nil hsuspended).elim, hoperations, h⟩

theorem Execution.Keeps.step
    {now next : Execution} {happening : List Happening} (h : now.Keeps discipline)
    (hstep : Step now happening next) : next.Keeps discipline := by
  obtain ⟨hcontrol, hwaiting, hagenda, hspace⟩ := h
  cases hstep with
  | takeUp =>
      obtain ⟨hdefines, hrest⟩ := List.forall_mem_cons.mp hagenda
      exact ⟨trivial, hwaiting, hrest, hspace.performAtOnce hdefines⟩
  | takeUpCall => exact ⟨trivial, hwaiting, (List.forall_mem_cons.mp hagenda).2, hspace⟩
  | enter | tooDeep | refuse | answer => exact ⟨trivial, hwaiting, hagenda, hspace⟩
  | refuseArguments | finish =>
      exact ⟨trivial, hwaiting, hagenda, hspace.recordOutcome _ _ _ _⟩
  | begin _ hresolve =>
      obtain ⟨hprogram, hafter⟩ := (hspace.body_of_resolveCall hresolve).begin hspace _
      exact ⟨hprogram, hwaiting, hagenda, hafter⟩
  | observe | cutOff => exact ⟨hcontrol.2 _, hwaiting, hagenda, hspace⟩
  | call | send => exact ⟨trivial, List.forall_mem_cons.mpr ⟨hcontrol, hwaiting⟩, hagenda, hspace⟩
  | perform =>
      exact ⟨hcontrol.2 _, hwaiting, hagenda, hspace.performAtOnce hcontrol.1.defines⟩
  | performCall =>
      have hnext : ∀ outcome, _ := fun outcome => hcontrol.2 (answerTo outcome)
      exact ⟨trivial, List.forall_mem_cons.mpr ⟨hnext, hwaiting⟩, hagenda, hspace⟩
  | resume =>
      obtain ⟨hnext, hrest⟩ := List.forall_mem_cons.mp hwaiting
      exact ⟨hnext _, hrest, hagenda, hspace⟩

end CallContract
