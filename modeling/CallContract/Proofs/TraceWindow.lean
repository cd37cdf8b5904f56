import CallContract.Proofs.Discipline
import CallContract.Proofs.ExecutionOutcome
import Mathlib.Data.List.DropRight

/-!
# The trace of checked calls

Where tracing is on, the trace is what has been told of the checked calls since it
was last cleared, cut to as many of the most recent as the settings allow; where it
is off, or allows none, the trace is empty.  This holds at every moment, also while
calls that are to be recorded are still inside each other.

Bodies that look neither at the trace nor at its settings cannot tell whether there
is one: execution goes the same way step by step, and every call has the same outcome.
-/

namespace CallContract

/-! ### What is recorded -/

def CheckedCall.entry (call : CheckedCall) : TraceEntry where
  scope := call.nearest
  member := call.frame.member
  arguments := call.frame.arguments
  returned := call.ran.bind Except.toOption
  error := (errorOf? call.outcome).map CallError.message

/-- The checked calls that were completed after the trace was last cleared. -/
def sinceCleared (happened : List Happening) : List CheckedCall :=
  happened.foldl
    (fun calls happening =>
      match happening with
      | .dispatched .. => calls
      | .completed call => calls ++ [call]
      | .cleared => [])
    []

/-- The trace of what has happened. -/
def Settings.traceOf (settings : Settings) (happened : List Happening) : List TraceEntry :=
  if settings.traceEnabled then
    ((sinceCleared happened).map CheckedCall.entry).rtake settings.traceCapacity
  else []

theorem Settings.traceOf_of_empty
    {settings : Settings} {happened : List Happening} (h : sinceCleared happened = []) :
    settings.traceOf happened = [] := by
  rw [traceOf, h, List.map_nil, List.rtake_nil, ite_self]

theorem Settings.traceOf_of_nothing
    {settings : Settings} {happened : List Happening}
    (h : settings.traceEnabled = false ∨ settings.traceCapacity = 0) :
    settings.traceOf happened = [] := by
  unfold traceOf
  rcases h with hdisabled | hcapacity
  · rw [hdisabled]
    rfl
  · rw [hcapacity, List.rtake_zero, ite_self]

/-- The trace of an object space is that of what has happened to it. -/
def ObjectSpace.Records (space : ObjectSpace) (happened : List Happening) : Prop :=
  space.trace = space.settings.traceOf happened

variable {space after : ObjectSpace} {past : List Happening}

theorem sinceCleared_dispatched
    (past : List Happening) (space : ObjectSpace) (reentries depth : Nat)
    (invocation : Invocation) :
    sinceCleared (past ++ [.dispatched space reentries depth invocation]) = sinceCleared past := by
  rw [sinceCleared, List.foldl_append]
  rfl

theorem sinceCleared_completed (past : List Happening) (call : CheckedCall) :
    sinceCleared (past ++ [.completed call]) = sinceCleared past ++ [call] := by
  rw [sinceCleared, List.foldl_append]
  rfl

theorem sinceCleared_cleared (past : List Happening) :
    sinceCleared (past ++ [.cleared]) = [] := by
  rw [sinceCleared, List.foldl_append]
  rfl

/-- Cutting off the oldest entries before another one is added makes no difference. -/
theorem rtake_rtake_append (entries : List α) (capacity : Nat) (entry : α) :
    (entries.rtake capacity ++ [entry]).rtake capacity = (entries ++ [entry]).rtake capacity := by
  cases capacity with
  | zero => rw [List.rtake_zero, List.rtake_zero]
  | succ capacity =>
      have hrecent : (entries.rtake (capacity + 1)).rtake capacity = entries.rtake capacity := by
        simp only [List.rtake_eq_reverse_take_reverse, List.reverse_reverse, List.take_take,
          Nat.min_eq_left (Nat.le_succ capacity)]
      rw [List.rtake_concat_succ, List.rtake_concat_succ, hrecent]

namespace ObjectSpace

theorem Records.of_same
    (h : space.Records past) (htrace : after.trace = space.trace)
    (hsettings : after.settings = space.settings) : after.Records past := by
  unfold Records
  rw [htrace, hsettings]
  exact h

theorem Records.dispatched
    (h : space.Records past) (called : ObjectSpace) (reentries depth : Nat)
    (invocation : Invocation) :
    space.Records (past ++ [.dispatched called reentries depth invocation]) := by
  unfold Records Settings.traceOf
  rw [sinceCleared_dispatched]
  exact h

theorem Records.recordCall
    (h : space.Records past) (henabled : space.settings.traceEnabled = true)
    (call : CheckedCall) : (space.recordCall call.entry).Records (past ++ [.completed call]) := by
  have htrace : space.trace =
      ((sinceCleared past).map CheckedCall.entry).rtake space.settings.traceCapacity := by
    rw [h, Settings.traceOf, if_pos henabled]
  change (space.trace ++ [call.entry]).rtake space.settings.traceCapacity =
    space.settings.traceOf (past ++ [.completed call])
  rw [Settings.traceOf, if_pos henabled, htrace, rtake_rtake_append, sinceCleared_completed,
    List.map_append]
  rfl

/-- A call that ends is recorded if a scope intercepts it. -/
theorem Records.recordOutcome
    (h : space.Records past) (activation : Activation)
    (ran : Option (Except CallError Value)) (outcome : Except CallError Value) :
    (space.recordOutcome activation.interceptors activation.frame (ran.bind Except.toOption)
      (errorOf? outcome)).Records
        (past ++ Happening.ofCall? (activation.checkedCall? ran outcome)) := by
  obtain ⟨frame, interceptors, contracts, reentries⟩ := activation
  cases interceptors with
  | nil =>
      change (space.recordOutcome [] frame _ _).Records (past ++ [])
      rw [recordOutcome_nil, List.append_nil]
      exact h
  | cons nearest rest =>
      let call : CheckedCall := ⟨nearest, frame, ran, outcome⟩
      change (space.recordOutcome (nearest :: rest) frame _ _).Records (past ++ [.completed call])
      cases henabled : space.settings.traceEnabled with
      | true =>
          simp only [ObjectSpace.recordOutcome, henabled]
          exact h.recordCall henabled call
      | false =>
          simp only [ObjectSpace.recordOutcome, henabled]
          unfold Records Settings.traceOf at h ⊢
          rw [henabled] at h ⊢
          exact h

theorem tracing_keptByContracts (trace : List TraceEntry) :
    KeptByContracts fun first second => second = first ∧ first.trace = trace where
  pending := fun h => h.1 ▸ rfl
  putPending := fun h _ => ⟨h.1 ▸ rfl, h.2⟩
  register := fun h _ _ _ => ⟨h.1 ▸ rfl, h.2⟩

/-- No other operation than clearing the trace changes it. -/
theorem tracing_simulation (trace : List TraceEntry) :
    Simulation (fun first second => second = first ∧ first.trace = trace) fun _ => True where
  scopes := fun h => h.1 ▸ rfl
  members := fun h => h.1 ▸ rfl
  nextObject := fun h => h.1 ▸ rfl
  bodies := fun _ _ _ _ => trivial
  reader := fun _ => trivial
  writer := fun _ => trivial
  putScopes := fun h _ => ⟨h.1 ▸ rfl, h.2⟩
  putMember := fun h _ _ _ => ⟨h.1 ▸ rfl, h.2⟩
  putNextObject := fun h _ => ⟨h.1 ▸ rfl, h.2⟩
  putVariable := fun h _ _ => ⟨h.1 ▸ rfl, h.2⟩
  consumePending := fun h => (tracing_keptByContracts trace).consumePending h (h.1 ▸ rfl)

theorem Records.performAtOnce (h : space.Records past) (operation : Operation) :
    (operation.performAtOnce.run space).2.Records (past ++ operation.clears) := by
  have hsettings := (operation.performAtOnce_reaches space).fixed.2
  by_cases hclear : operation = .clearTrace
  · subst hclear
    exact (Settings.traceOf_of_empty (sinceCleared_cleared past)).symm
  · have hnothing : operation.clears = [] := by
      cases operation with
      | clearTrace => exact (hclear rfl).elim
      | _ => rfl
    have hdefines : operation.Defines fun _ => True := by
      cases operation <;> trivial
    have hrespects := Operation.performAtOnce_respects (tracing_simulation space.trace)
      (tracing_keptByContracts space.trace) hdefines fun hclears => (hclear hclears).elim
    rw [hnothing, List.append_nil]
    exact h.of_same (hrespects space space ⟨rfl, rfl⟩).2.2 hsettings

end ObjectSpace

theorem Body.begin_trace (body : Body) (frame : Frame) (space : ObjectSpace) :
    (body.begin frame space).2.trace = space.trace := by
  obtain ⟨values, hbegun⟩ := body.begin_writes_variables frame space
  rw [hbegun]

namespace Execution

variable {now next : Execution} {happening : List Happening}

/-- The trace follows what a step tells. -/
theorem Step.records (hstep : Step now happening next) (h : now.space.Records past) :
    next.space.Records (past ++ happening) := by
  cases hstep with
  | takeUp | perform => exact h.performAtOnce _
  | tooDeep | refuse => exact h.dispatched _ _ _ _
  | refuseArguments =>
      rw [List.append_cons]
      exact (h.dispatched _ _ _ _).recordOutcome _ none (.error _)
  | begin =>
      exact (h.dispatched _ _ _ _).of_same (Body.begin_trace _ _ _)
        (Body.begin_reaches _ _ _).fixed.2
  | finish => exact h.recordOutcome _ (some _) _
  | _ =>
      rw [List.append_nil]
      exact h

theorem records_after?
    {steps : Nat} {happened : List Happening} {last : Execution} (h : now.space.Records past)
    (hafter : now.after? steps = some (happened, last)) :
    last.space.Records (past ++ happened) :=
  @after?_induction now last (fun told moment => moment.space.Records told)
    (fun _ _ _ _ hbefore hstep => hstep.records hbefore) steps past happened h hafter

theorem settings_after?
    {steps : Nat} {happened : List Happening} {last : Execution}
    (hafter : now.after? steps = some (happened, last)) :
    last.space.settings = now.space.settings :=
  after?_invariant (fun _ _ _ hbefore hstep => (Step.settings hstep).trans hbefore) rfl hafter

end Execution

/-! ### Lives of object spaces -/

/-- An object space at rest, with what has happened to it since it was made; what
others do to its registry goes untold. -/
inductive ObjectSpace.Lived : ObjectSpace → List Happening → Prop
  | made (id : SpaceId) (settings : Settings) (registry : Registry) :
      Lived (.initial id settings registry) []
  | ran {space : ObjectSpace} {past happened : List Happening} {operations : List Operation}
      {last : Execution} (hbefore : Lived space past)
      (hcomes : (Execution.start space operations).ComesTo happened last)
      (hend : last.step? = none) : Lived last.space (past ++ happened)
  | shared {space : ObjectSpace} {past : List Happening} (registry : Registry)
      (hbefore : Lived space past) : Lived (space.withRegistry registry) past

theorem ObjectSpace.Lived.records (h : space.Lived past) : space.Records past := by
  induction h with
  | made id settings registry =>
      obtain ⟨members, hinitial⟩ := initial_eq id settings registry
      rw [hinitial]
      exact (Settings.traceOf_of_empty rfl).symm
  | ran _ hcomes _ ih =>
      obtain ⟨steps, hsteps⟩ := hcomes
      exact Execution.records_after? ih hsteps
  | shared registry _ ih => exact ih.of_same rfl rfl

theorem ObjectSpace.Lived.isWhole (h : space.Lived past) : IsWhole past := by
  induction h with
  | made => exact .nothing
  | @ran space _ _ operations _ _ hcomes hend ih =>
      obtain ⟨whole, answer, hwhole, hwholeComes⟩ := Execution.start_comesTo space operations
      obtain ⟨rfl, -⟩ := hwholeComes.unique rfl hcomes hend
      exact ih.append hwhole
  | shared _ _ ih => exact ih

theorem ObjectSpace.Lived.perform (h : space.Lived past) (operation : Operation) :
    ∃ happened, (space.perform operation).2.Lived happened := by
  obtain ⟨happened, answer, -, hcomes⟩ := Execution.start_comesTo space [operation]
  exact ⟨_, h.ran hcomes rfl⟩

/-- At every time all spaces of a fleet have lived. -/
theorem Fleet.exists_lived
    {fleet : Fleet} (steps : List (Nat × Operation))
    (hfleet : ∀ index space, fleet.space? index = some space → ∃ past, space.Lived past) :
    ∀ index space, (fleet.after steps).space? index = some space → ∃ past, space.Lived past := by
  induction steps generalizing fleet with
  | nil => exact hfleet
  | cons step rest ih =>
      refine ih fun index after hafter => ?_
      change (fleet.perform step.1 step.2).2.space? index = some after at hafter
      cases htarget : fleet.space? step.1 with
      | none =>
          rw [perform_of_no_space step.2 htarget] at hafter
          exact hfleet index after hafter
      | some acting =>
          rw [space?_perform step.2 htarget] at hafter
          split at hafter
          next =>
            cases hafter
            obtain ⟨_, hacting⟩ := hfleet _ _ htarget
            exact hacting.perform step.2
          next =>
            obtain ⟨before, hbefore, rfl⟩ := Option.map_eq_some_iff.mp hafter
            obtain ⟨past, hpast⟩ := hfleet index before hbefore
            exact ⟨past, hpast.shared _⟩

/-- The traces of a fleet are at every time those of what has happened in its spaces. -/
theorem Fleet.traces_record
    (settings : List Settings) (steps : List (Nat × Operation)) {index : Nat}
    {space : ObjectSpace}
    (hspace : ((Fleet.ofSettings settings).after steps).space? index = some space) :
    ∃ past, space.Lived past ∧ IsWhole past ∧ space.Records past := by
  have hmade : ∀ index space, (Fleet.ofSettings settings).space? index = some space →
      ∃ past, space.Lived past := by
    intro index space h
    obtain ⟨own, rfl⟩ := space?_ofSettings h
    exact ⟨[], .made ⟨index⟩ own []⟩
  obtain ⟨past, hlived⟩ := exists_lived steps hmade index space hspace
  exact ⟨past, hlived, hlived.isWhole, hlived.records⟩

/-! ### What cannot be told -/

def Observation.withoutTrace (seen : Observation) : Observation :=
  { seen with
    settings := { seen.settings with traceEnabled := false, traceCapacity := 0 }
    trace := [] }

/-- Bodies that look neither at the trace nor at its settings. -/
def Discipline.traceBlind : Discipline :=
  ⟨fun next => ∀ seen, next seen = next seen.withoutTrace, True⟩

namespace ObjectSpace

/-- An object space without its trace and with tracing off. -/
def untraced (space : ObjectSpace) : ObjectSpace :=
  { space with
    settings := { space.settings with traceEnabled := false, traceCapacity := 0 }
    trace := [] }

theorem untraced_callsAlike (space : ObjectSpace) : space.CallsAlike space.untraced :=
  ⟨rfl, rfl, rfl, rfl, rfl⟩

theorem untraced_keptByContracts :
    KeptByContracts fun first second => second = first.untraced where
  pending := fun h => h ▸ rfl
  putPending := fun h _ => h ▸ rfl
  register := fun h _ _ _ => h ▸ rfl

theorem untraced_simulation :
    Simulation (fun first second => second = first.untraced) fun _ => True where
  scopes := fun h => h ▸ rfl
  members := fun h => h ▸ rfl
  nextObject := fun h => h ▸ rfl
  bodies := fun _ _ _ _ => trivial
  reader := fun _ => trivial
  writer := fun _ => trivial
  putScopes := fun h _ => h ▸ rfl
  putMember := fun h _ _ _ => h ▸ rfl
  putNextObject := fun h _ => h ▸ rfl
  putVariable := fun h _ _ => h ▸ rfl
  consumePending := fun h => untraced_keptByContracts.consumePending h (h ▸ rfl)

theorem performAtOnce_untraced (operation : Operation) (space : ObjectSpace) :
    operation.performAtOnce.run space.untraced =
      ((operation.performAtOnce.run space).1, (operation.performAtOnce.run space).2.untraced) := by
  have hdefines : operation.Defines fun _ => True := by
    cases operation <;> trivial
  have hrespects := Operation.performAtOnce_respects untraced_simulation untraced_keptByContracts
    hdefines fun _ _ _ h => congrArg ObjectSpace.clearTrace h
  obtain ⟨hanswer, hafter⟩ := hrespects space space.untraced rfl
  exact Prod.ext hanswer hafter

theorem recordOutcome_untraced
    (space : ObjectSpace) (interceptors : List ScopeId) (frame : Frame)
    (returned : Option Value) (error : Option CallError) :
    space.untraced.recordOutcome interceptors frame returned error =
      (space.recordOutcome interceptors frame returned error).untraced := by
  have hkept : space.untraced.recordOutcome interceptors frame returned error =
      space.untraced := rfl
  obtain ⟨entries, hrecorded⟩ :=
    space.recordOutcome_writes_trace interceptors frame returned error
  rw [hkept, hrecorded]
  rfl

end ObjectSpace

theorem Body.begin_untraced (body : Body) (frame : Frame) (space : ObjectSpace) :
    body.begin frame space.untraced =
      ((body.begin frame space).1, (body.begin frame space).2.untraced) := by
  cases body with
  | script program => rfl
  | reader name => rfl
  | builtin operation =>
      simp only [Body.begin, Body.run, Action.step, ExceptT.run_mk,
        space.untraced_callsAlike.builtin]
      cases operation.run space frame <;> rfl
  | writer name =>
      simp only [Body.begin, Body.run, Action.step, ExceptT.run_mk, ObjectSpace.writeVariable]
      cases frame.receiver.attachment? <;> rfl

/-- What is told where there is no trace. -/
def Happening.untraced : Happening → Happening
  | .dispatched space reentries depth invocation =>
      .dispatched space.untraced reentries depth invocation
  | happening => happening

theorem Happening.ofCall?_untraced (call : Option CheckedCall) :
    (Happening.ofCall? call).map Happening.untraced = Happening.ofCall? call := by
  cases call <;> rfl

theorem Operation.clears_untraced (operation : Operation) :
    operation.clears.map Happening.untraced = operation.clears := by
  cases operation <;> rfl

namespace Execution

def untraced (now : Execution) : Execution :=
  { now with space := now.space.untraced }

/-- A moment of an execution, with what has happened before, as it is without traces. -/
def withoutTrace (moment : List Happening × Execution) : List Happening × Execution :=
  (moment.1.map Happening.untraced, moment.2.untraced)

theorem conclude_untraced
    (now : Execution) (activation : Activation) (ran : Option (Except CallError Value))
    (outcome : Except CallError Value) :
    now.untraced.conclude activation ran outcome =
      withoutTrace (now.conclude activation ran outcome) := by
  simp only [conclude, withoutTrace, untraced, ObjectSpace.recordOutcome_untraced,
    Happening.ofCall?_untraced]

theorem decide_untraced (now : Execution) (reentries depth : Nat) (invocation : Invocation) :
    now.untraced.decide reentries depth invocation =
      withoutTrace (now.decide reentries depth invocation) := by
  have halike := now.space.untraced_callsAlike
  have hspace : now.untraced.space = now.space.untraced := rfl
  have hlimit : now.space.untraced.settings.maxCallDepth = now.space.settings.maxCallDepth := rfl
  unfold decide
  rw [hspace, hlimit, halike.resolveCall, halike.checkAllArguments]
  simp only [Activation.ofCall, halike.signaturesFor]
  split
  next => rfl
  next =>
    split
    next => rfl
    next =>
      split
      next => exact conclude_untraced now _ none _
      next =>
        rw [Body.begin_untraced]
        rfl

theorem advance_untraced
    (now : Execution) (activation : Activation) {program : Program}
    (hprogram : program.Keeps .traceBlind) :
    now.untraced.advance activation program = withoutTrace (now.advance activation program) := by
  cases program with
  | finish ran =>
      have houtcome : activation.outcomeOf now.space.untraced ran =
          activation.outcomeOf now.space ran := by
        cases ran with
        | error error => rfl
        | ok value =>
            simp only [Activation.outcomeOf]
            rw [now.space.untraced_callsAlike.checkAllResults]
      have hended := conclude_untraced now activation (some ran)
        (activation.outcomeOf now.space ran)
      rw [← houtcome] at hended
      rw [advance, advance, ← houtcome]
      exact hended
  | observe next =>
      have hseen : next now.space.untraced.observe = next now.space.observe :=
        (hprogram.1 now.space.observe).symm
      simp only [advance, untraced, hseen]
      rfl
  | call receiver member arguments next => rfl
  | send member arguments next => rfl
  | perform operation next =>
      cases hcall : operation.asCall? with
      | some invocation =>
          cases hreentries : activation.reentries <;> simp only [advance, hcall, hreentries] <;> rfl
      | none =>
          rcases hran : operation.performAtOnce.run now.space with ⟨answer, after⟩
          have huntraced := ObjectSpace.performAtOnce_untraced operation now.space
          simp only [advance, hcall, untraced, huntraced, hran, withoutTrace,
            operation.clears_untraced]

theorem takeUp?_untraced (now : Execution) :
    now.untraced.takeUp? = now.takeUp?.map withoutTrace := by
  obtain ⟨control, waiting, agenda, space⟩ := now
  cases agenda with
  | nil => rfl
  | cons operation rest =>
      cases hcall : operation.asCall? with
      | some invocation =>
          simp only [takeUp?, untraced, hcall]
          rfl
      | none =>
          rcases hran : operation.performAtOnce.run space with ⟨answer, after⟩
          have huntraced := ObjectSpace.performAtOnce_untraced operation space
          simp only [takeUp?, untraced, hcall, huntraced, hran, Option.map_some, withoutTrace,
            operation.clears_untraced]

/-- Execution goes the same way, step by step, where tracing is off. -/
theorem step?_untraced {now : Execution} (h : now.Keeps .traceBlind) :
    now.untraced.step? = now.step?.map withoutTrace := by
  obtain ⟨control, waiting, agenda, space⟩ := now
  cases control with
  | answered answer => exact takeUp?_untraced _
  | entering reentries invocation => rfl
  | calling reentries depth invocation =>
      have hdecided := decide_untraced ⟨.calling reentries depth invocation, waiting, agenda, space⟩
        reentries depth invocation
      simp only [step?, untraced] at hdecided ⊢
      rw [hdecided]
      rfl
  | running activation program =>
      exact congrArg some (advance_untraced ⟨_, waiting, agenda, space⟩ activation h.control)
  | returning outcome => cases waiting <;> rfl

theorem after?_untraced {now : Execution} (h : now.Keeps .traceBlind) (steps : Nat) :
    now.untraced.after? steps = (now.after? steps).map withoutTrace := by
  induction steps generalizing now with
  | zero => rfl
  | succ steps ih =>
      rw [after?, after?, step?_untraced h]
      cases hstep : now.step? with
      | none => rfl
      | some moment =>
          obtain ⟨happening, next⟩ := moment
          have hrest := ih (h.step (step_of_step? hstep))
          simp only [Option.map_some, Option.bind_some, withoutTrace] at hrest ⊢
          rw [hrest]
          cases next.after? steps with
          | none => rfl
          | some rest =>
              simp only [Option.map_some, withoutTrace, List.map_append]

theorem ComesTo.untraced
    {now last : Execution} {happened : List Happening} (hkeeps : now.Keeps .traceBlind)
    (h : now.ComesTo happened last) :
    now.untraced.ComesTo (happened.map Happening.untraced) last.untraced := by
  obtain ⟨steps, hsteps⟩ := h
  refine ⟨steps, ?_⟩
  rw [after?_untraced hkeeps, hsteps]
  rfl

theorem answerTo_injective {first second : Except CallError Value}
    (h : answerTo first = answerTo second) : first = second := by
  cases first <;> cases second <;> cases h <;> rfl

/-- Two spaces that differ in their tracing only have the same outcome for every
call, and differ in their tracing only after it. -/
theorem dispatchAt_of_untraced
    {other : ObjectSpace} (hkeeps : space.Keeps .traceBlind)
    (hother : other.untraced = space.untraced) (reentries depth : Nat) (invocation : Invocation) :
    ((invocation.dispatchAt reentries depth).run other).1 =
        ((invocation.dispatchAt reentries depth).run space).1 ∧
      ((invocation.dispatchAt reentries depth).run other).2.untraced =
        ((invocation.dispatchAt reentries depth).run space).2.untraced := by
  have hends : ∀ start : ObjectSpace, start.Keeps .traceBlind →
      ∃ happened, ComesTo ⟨.calling reentries depth invocation, [], [], start.untraced⟩ happened
        ⟨.answered (answerTo ((invocation.dispatchAt reentries depth).run start).1), [], [],
          ((invocation.dispatchAt reentries depth).run start).2.untraced⟩ := by
    intro start hstart
    obtain ⟨inner, -, hcomes⟩ := calling_comesTo reentries depth invocation [] [] start
    have hbegin : Execution.Keeps .traceBlind
        ⟨.calling reentries depth invocation, [], [], start⟩ :=
      ⟨trivial, fun _ h => (List.not_mem_nil h).elim, fun _ h => (List.not_mem_nil h).elim, hstart⟩
    exact ⟨_, (hcomes.trans (comesTo_of_step rfl)).untraced hbegin⟩
  have hmembers : other.untraced.members = space.untraced.members :=
    congrArg ObjectSpace.members hother
  obtain ⟨_, hlast⟩ := hends space hkeeps
  obtain ⟨_, hotherLast⟩ := hends other (hkeeps.of_members hmembers)
  rw [hother] at hotherLast
  obtain ⟨-, hsame⟩ := hlast.unique rfl hotherLast rfl
  simp only [Execution.mk.injEq, Control.answered.injEq] at hsame
  exact ⟨answerTo_injective hsame.1, hsame.2.2.2⟩

/-- An object space that has lived always has the window of its most recent checked
calls as its trace: of all that have ended since the trace was last cleared, in the
order in which they ended, each with the entry that it has, those that the settings
allow.  This is so at every moment of what is performed on it next, all of which is
told in one whole history.  Where tracing is off or nothing is kept the trace is
empty, and bodies that do not look at it cannot tell the difference. -/
theorem trace_is_window
    (hlived : space.Lived past) (operations : List Operation) :
    (∃ whole answer, IsWhole (past ++ whole) ∧
      (start space operations).ComesTo whole
        ⟨.answered answer, [], [], space.afterAll operations⟩ ∧
      ∀ steps happened now, (start space operations).after? steps = some (happened, now) →
        happened <+: whole ∧
          now.space.trace = space.settings.traceOf (past ++ happened) ∧
          (space.settings.traceEnabled = false ∨ space.settings.traceCapacity = 0 →
            now.space.trace = [])) ∧
      (space.Keeps .traceBlind → ∀ other : ObjectSpace, other.untraced = space.untraced →
        ((∀ operation ∈ operations, operation.Defines (·.Keeps .traceBlind)) →
          ∀ steps, ((start other operations).after? steps).map withoutTrace =
            ((start space operations).after? steps).map withoutTrace) ∧
        ∀ reentries depth invocation,
          ((Invocation.dispatchAt invocation reentries depth).run other).1 =
            ((Invocation.dispatchAt invocation reentries depth).run space).1) := by
  obtain ⟨whole, answer, hwhole, hcomes⟩ := start_comesTo space operations
  refine ⟨⟨whole, answer, hlived.isWhole.append hwhole, hcomes, ?_⟩, ?_⟩
  · intro steps happened now hafter
    obtain ⟨later, hlater, -⟩ := hcomes.through rfl ⟨steps, hafter⟩
    have htrace := records_after? hlived.records hafter
    rw [ObjectSpace.Records, settings_after? hafter] at htrace
    have hnone := fun hnothing => htrace.trans (Settings.traceOf_of_nothing hnothing)
    exact ⟨⟨later, hlater⟩, htrace, hnone⟩
  · intro hkeeps other hother
    refine ⟨fun hoperations steps => ?_, fun reentries depth invocation =>
      (dispatchAt_of_untraced hkeeps hother reentries depth invocation).1⟩
    have hmembers : other.untraced.members = space.untraced.members :=
      congrArg ObjectSpace.members hother
    have hstart : (start other operations).untraced = (start space operations).untraced :=
      congrArg (Execution.mk _ _ operations) hother
    have hotherKeeps : other.Keeps .traceBlind := hkeeps.of_members hmembers
    rw [← after?_untraced (keeps_start hkeeps hoperations),
      ← after?_untraced (keeps_start hotherKeeps hoperations), hstart]

def keepingTwo : Settings :=
  { Settings.standard with traceEnabled := true, traceCapacity := 2 }

/-- A checked call, and then another one with the first inside it. -/
def nestedCalls : List Operation :=
  [.defineMember .nilClass ⟨"count"⟩ .publicAccess .none
      (.script fun _ => .send ⟨"to_i"⟩ ⟨[], []⟩ .finish),
    .contract .nilClass ⟨"to_i"⟩ (.spec (.list []) .any),
    .contract .nilClass ⟨"count"⟩ (.spec (.list []) .any),
    .call .nil ⟨"to_i"⟩ ⟨[], []⟩,
    .call .nil ⟨"count"⟩ ⟨[], []⟩]

theorem trace_is_window_of_nested_calls :
    (ObjectSpace.initial ⟨0⟩ keepingTwo []).Lived [] ∧
      (∃ whole, IsWhole whole ∧
        (ObjectSpace.initial ⟨0⟩ keepingTwo []).settings.traceOf whole =
          [⟨.nilClass, ⟨"to_i"⟩, ⟨[], []⟩, some (.int 0), none⟩,
            ⟨.nilClass, ⟨"count"⟩, ⟨[], []⟩, some (.int 0), none⟩]) ∧
      ∀ reentries depth invocation,
        ((Invocation.dispatchAt invocation reentries depth).run (.initial ⟨0⟩ .standard [])).1 =
          ((Invocation.dispatchAt invocation reentries depth).run
            (.initial ⟨0⟩ keepingTwo [])).1 := by
  have hlived : (ObjectSpace.initial ⟨0⟩ keepingTwo []).Lived [] := .made _ _ _
  obtain ⟨⟨whole, answer, hwhole, ⟨steps, hsteps⟩, hmoments⟩, hblind⟩ :=
    trace_is_window hlived nestedCalls
  obtain ⟨-, htrace, -⟩ := hmoments steps whole _ hsteps
  rw [List.nil_append] at hwhole htrace
  have hsame := hblind (ObjectSpace.keeps_initial _ _ _ _) (.initial ⟨0⟩ .standard []) rfl
  refine ⟨hlived, ⟨whole, hwhole, ?_⟩, hsame.2⟩
  rw [← htrace]
  rfl

end Execution

end CallContract
