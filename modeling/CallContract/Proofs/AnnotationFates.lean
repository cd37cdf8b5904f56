import CallContract.Proofs.FailedOperations
import CallContract.Proofs.LayerRegistry
import Mathlib.Logic.ExistsUnique

/-!
# What becomes of annotations

An annotation waits on its scope until another one replaces it, or until the
first member is defined on the scope, or on its singleton while that has no
annotation of its own.  That member is put under the annotated contract and the
annotation is gone.  A history is a sequence of changes that tells annotations
and definitions from all other changes, so it says what happened first.

An explicit definition is over with the consumption.  A typed accessor that
defines its member puts its own contract in the place of the annotated one.
-/

namespace CallContract.ObjectSpace

variable {space after final annotated : ObjectSpace} {scope definer : ScopeId} {member : Symbol}
  {signature : Signature}

/-! ### Histories -/

inductive Event
  | annotated (scope : ScopeId) (signature : Signature)
  | defined (scope : ScopeId) (member : Symbol)
  | other

/-- A change that neither keeps an annotation nor defines a member; the registry
may also change with what other spaces put into it. -/
inductive QuietChange (space : ObjectSpace) : ObjectSpace → Prop
  | scopes {table : ScopeTable} (h : space.scopes.Change table) :
      QuietChange space { space with scopes := table }
  | newObject : QuietChange space { space with nextObject := ⟨space.nextObject.number + 1⟩ }
  | writeVariable (key : VariableKey) (value : Value) :
      QuietChange space { space with variableValues := space.variableValues.put key value }
  | setVisibility {scope : ScopeId} {name : Symbol} {member : Member} (visibility : Visibility)
      (h : space.ownMember? scope name = some member) :
      QuietChange space { space with
        members := space.members.put ⟨scope, name⟩
          { member with definition := { member.definition with visibility := visibility } } }
  | register (scope : ScopeId) (member : Symbol) {term : Term} {signature : Signature}
      (h : term.signature = .ok signature) :
      QuietChange space (space.registerSignature scope member signature)
  | record (entry : TraceEntry) : QuietChange space (space.recordCall entry)
  | clearTrace : QuietChange space space.clearTrace
  | shared (registry : Registry) : QuietChange space (space.withRegistry registry)

inductive Step (space : ObjectSpace) : Event → ObjectSpace → Prop
  | annotate {scope : ScopeId} {definition : ScopeDefinition} {term : Term}
      {signature : Signature} (hscope : space.scopes.get? scope = some definition)
      (h : term.signature = .ok signature) :
      Step space (.annotated scope signature)
        { space with pending := space.pending.put scope signature }
  | define (member : Member) {definition : ScopeDefinition}
      (h : space.scopes.get? member.definition.owner = some definition) :
      Step space (.defined member.definition.owner member.definition.name)
        ((space.insertMember member).consumePending member.definition.owner
          member.definition.name)
  | quiet {after : ObjectSpace} (h : space.QuietChange after) : Step space .other after

structure TracedStep where
  before : ObjectSpace
  event : Event
  after : ObjectSpace

inductive History : ObjectSpace → List TracedStep → ObjectSpace → Prop
  | refl (space : ObjectSpace) : History space [] space
  | step {space middle final : ObjectSpace} {event : Event} {rest : List TracedStep}
      (hstep : space.Step event middle) (hrest : History middle rest final) :
      History space (⟨space, event, middle⟩ :: rest) final

theorem Change.step (h : space.Change after) : ∃ event, space.Step event after := by
  cases h with
  | scopes htable => exact ⟨_, .quiet (.scopes htable)⟩
  | newObject => exact ⟨_, .quiet .newObject⟩
  | writeVariable key value => exact ⟨_, .quiet (.writeVariable key value)⟩
  | defineMember member hscope => exact ⟨_, .define member hscope⟩
  | setVisibility visibility hown => exact ⟨_, .quiet (.setVisibility visibility hown)⟩
  | register scope member hsignature => exact ⟨_, .quiet (.register scope member hsignature)⟩
  | annotate hscope hsignature => exact ⟨_, .annotate hscope hsignature⟩
  | record entry => exact ⟨_, .quiet (.record entry)⟩
  | clearTrace => exact ⟨_, .quiet .clearTrace⟩

/-- Histories are made of changes, and of exchanges of the registry. -/
theorem Step.change_or_shared {event : Event} (h : space.Step event after) :
    space.Change after ∨ ∃ registry, after = space.withRegistry registry := by
  cases h with
  | annotate hscope hsignature => exact .inl (.annotate hscope hsignature)
  | define member hscope => exact .inl (.defineMember member hscope)
  | quiet hquiet =>
      cases hquiet with
      | scopes htable => exact .inl (.scopes htable)
      | newObject => exact .inl .newObject
      | writeVariable key value => exact .inl (.writeVariable key value)
      | setVisibility visibility hown => exact .inl (.setVisibility visibility hown)
      | register scope member hsignature => exact .inl (.register scope member hsignature)
      | record entry => exact .inl (.record entry)
      | clearTrace => exact .inl .clearTrace
      | shared registry => exact .inr ⟨registry, rfl⟩

theorem WellScoped.step {event : Event} (h : space.WellScoped) (hstep : space.Step event after) :
    after.WellScoped := by
  rcases hstep.change_or_shared with hchange | ⟨registry, rfl⟩
  · exact h.change hchange
  · exact h.of_same rfl rfl

theorem History.append
    {middle : ObjectSpace} {first second : List TracedStep}
    (hfirst : space.History first middle) (hsecond : middle.History second final) :
    space.History (first ++ second) final := by
  induction hfirst with
  | refl => exact hsecond
  | step hstep _ ih => exact .step hstep (ih hsecond)

/-- What happens to an object space in a fleet: changes of its own, and what the
others put into the registry. -/
abbrev Becomes : ObjectSpace → ObjectSpace → Prop :=
  Relation.ReflTransGen fun before after =>
    before.Change after ∨ ∃ registry, after = before.withRegistry registry

theorem Reaches.becomes (h : space.Reaches after) : space.Becomes after :=
  Relation.ReflTransGen.mono (fun _ _ hchange => .inl hchange) _ _ h

/-- Operations on the other spaces of a fleet only exchange the registry. -/
theorem becomes_of_fleet
    {fleet : Fleet} {index : Nat} (steps : List (Nat × Operation))
    (hspace : fleet.space? index = some space)
    (hafter : (fleet.after steps).space? index = some after) : space.Becomes after := by
  induction steps generalizing fleet space with
  | nil =>
      cases hspace.symm.trans hafter
      exact .refl
  | cons step rest ih =>
      cases htarget : fleet.space? step.1 with
      | none =>
          have hkept : (fleet.perform step.1 step.2).2.space? index = some space := by
            rw [Fleet.perform_of_no_space step.2 htarget]
            exact hspace
          exact ih hkept hafter
      | some acting =>
          have hnext := Fleet.space?_perform step.2 htarget index
          split at hnext
          next hsame =>
            rw [hsame, hspace] at htarget
            cases htarget
            exact (space.perform_reaches step.2).becomes.trans (ih hnext hafter)
          next =>
            rw [hspace, Option.map_some] at hnext
            exact .head (.inr ⟨_, rfl⟩) (ih hnext hafter)

/-- Whatever an object space becomes, there is a history of it. -/
theorem Becomes.history (h : space.Becomes after) : ∃ steps, space.History steps after := by
  induction h with
  | refl => exact ⟨[], .refl space⟩
  | tail _ hnext ih =>
      obtain ⟨steps, hsteps⟩ := ih
      obtain ⟨event, hstep⟩ : ∃ event, Step _ event _ := by
        rcases hnext with hchange | ⟨registry, rfl⟩
        · exact hchange.step
        · exact ⟨.other, .quiet (.shared registry)⟩
      exact ⟨_, hsteps.append (.step hstep (.refl _))⟩

/-! ### What a definition takes -/

/-- A member that is defined takes what waits on its scope, or on the one that its
scope is the singleton of if nothing waits on the singleton itself. -/
def TakesFrom (space : ObjectSpace) (scope definer : ScopeId) : Prop :=
  definer = scope ∨
    space.scopes.existingSingleton? (.scope scope) = some definer ∧
      space.pending.get? definer = none

theorem takesFrom_iff
    (hspace : space.WellScoped) (hwaits : space.pending.get? scope = some signature) :
    space.TakesFrom scope definer ↔ space.waiting? definer = some (scope, signature) := by
  unfold TakesFrom waiting?
  rw [← ScopeTable.attachedScope?_eq_some_iff hspace.formed]
  cases hown : space.pending.get? definer with
  | some own =>
      constructor
      · rintro (rfl | ⟨-, hnone⟩)
        · rw [hown] at hwaits
          cases hwaits
          rfl
        · cases hnone
      · intro hsame
        exact .inl (Prod.mk.inj (Option.some.inj hsame)).1
  | none =>
      constructor
      · rintro (rfl | ⟨hattached, -⟩)
        · rw [hown] at hwaits
          cases hwaits
        · simp only [hattached, Option.bind_some, hwaits, Option.map_some]
      · intro hsame
        obtain ⟨attached, hattached, htaken⟩ := Option.bind_eq_some_iff.mp hsame
        obtain ⟨taken, -, hpair⟩ := Option.map_eq_some_iff.mp htaken
        obtain ⟨rfl, -⟩ := Prod.mk.inj hpair
        exact .inr ⟨hattached, rfl⟩

theorem pending_consumePending (definer other : ScopeId) (member : Symbol) :
    (space.consumePending definer member).pending.get? other =
      if (space.waiting? definer).map Prod.fst = some other then none
      else space.pending.get? other := by
  unfold consumePending
  cases space.waiting? definer with
  | none => rw [if_neg (by simp)]
  | some waiting =>
      refine (Table.get?_erase space.pending waiting.1 other).trans ?_
      simp only [Option.map_some, Option.some.injEq]

theorem signature?_consumePending (definer other : ScopeId) (member name : Symbol) :
    (space.consumePending definer member).signature? other name =
      if definer = other ∧ member = name then
        ((space.waiting? definer).map Prod.snd).or (space.signature? other name)
      else space.signature? other name := by
  unfold consumePending
  cases space.waiting? definer with
  | none => simp
  | some waiting => exact signature?_registerSignature

theorem pending_of_waiting? (h : space.waiting? definer = some (scope, signature)) :
    space.pending.get? scope = some signature := by
  unfold waiting? at h
  split at h
  next own hown =>
    cases h
    exact hown
  next =>
    obtain ⟨attached, -, htaken⟩ := Option.bind_eq_some_iff.mp h
    obtain ⟨taken, hpending, hpair⟩ := Option.map_eq_some_iff.mp htaken
    cases hpair
    exact hpending

/-! ### One step -/

theorem QuietChange.pending (h : space.QuietChange after) : after.pending = space.pending := by
  cases h <;> rfl

/-- What waits on a scope is settled by another annotation in its place, and by
the definition of a member that takes it. -/
def TracedStep.Settles (step : TracedStep) (scope : ScopeId) : Prop :=
  match step.event with
  | .annotated other _ => other = scope
  | .defined definer _ => step.before.TakesFrom scope definer
  | .other => False

/-- What a definition does to annotations and to contracts. -/
theorem Step.of_defined (hstep : space.Step (.defined definer member) after) :
    (∀ scope, after.pending.get? scope =
      if (space.waiting? definer).map Prod.fst = some scope then none
      else space.pending.get? scope) ∧
    ∀ other name, after.signature? other name =
      if definer = other ∧ member = name then
        ((space.waiting? definer).map Prod.snd).or (space.signature? other name)
      else space.signature? other name := by
  cases hstep with
  | define made hscope =>
      exact ⟨fun scope => pending_consumePending _ scope _,
        fun other name => signature?_consumePending _ other _ name⟩

theorem Step.keeps_elsewhere
    (hspace : space.WellScoped) (hstep : space.Step (.defined definer member) after)
    (hnot : ¬ space.TakesFrom scope definer) :
    after.pending.get? scope = space.pending.get? scope := by
  rw [hstep.of_defined.1, if_neg]
  intro htaken
  obtain ⟨⟨_, signature⟩, hwaiting, rfl⟩ := Option.map_eq_some_iff.mp htaken
  exact hnot ((takesFrom_iff hspace (pending_of_waiting? hwaiting)).mpr hwaiting)

theorem Step.keeps_waiting
    (hspace : space.WellScoped) {event : Event} (hstep : space.Step event after)
    (hwaits : space.pending.get? scope = some signature)
    (hnot : ¬ TracedStep.Settles ⟨space, event, after⟩ scope) :
    after.pending.get? scope = some signature := by
  cases event with
  | annotated other replacing =>
      have helsewhere : other ≠ scope := hnot
      cases hstep with
      | annotate hother hsignature =>
          change (space.pending.put other replacing).get? scope = _
          rw [Table.get?_put, if_neg helsewhere]
          exact hwaits
  | defined definer member => exact (hstep.keeps_elsewhere hspace hnot).trans hwaits
  | other =>
      cases hstep with
      | quiet hquiet =>
          rw [hquiet.pending]
          exact hwaits

/-- The member that takes an annotation is put under the annotated contract. -/
theorem Step.takes
    (hspace : space.WellScoped) (hstep : space.Step (.defined definer member) after)
    (hwaits : space.pending.get? scope = some signature) (htakes : space.TakesFrom scope definer) :
    after.signature? definer member = some signature ∧ after.pending.get? scope = none := by
  obtain ⟨hpending, hsignatures⟩ := hstep.of_defined
  have hwaiting := (takesFrom_iff hspace hwaits).mp htakes
  rw [hpending, hsignatures, if_pos ⟨rfl, rfl⟩, hwaiting]
  exact ⟨rfl, if_pos rfl⟩

/-- A definition leaves annotations alone that it may not take, and puts at most
its own member under contract, by an annotation that it uses up. -/
structure TracedStep.TakesOwn
    (step : TracedStep)
    (definer : ScopeId)
    (member : Symbol) : Prop where
  keeps : ∀ scope, ¬ step.before.TakesFrom scope definer →
    step.after.pending.get? scope = step.before.pending.get? scope
  applies : ∀ other name,
    step.after.signature? other name ≠ step.before.signature? other name →
      (other = definer ∧ name = member) ∧
        ∃ taken signature, step.before.TakesFrom taken definer ∧
          step.before.pending.get? taken = some signature ∧
          step.after.signature? other name = some signature ∧
          step.after.pending.get? taken = none

theorem Step.takesOwn
    (hspace : space.WellScoped) (hstep : space.Step (.defined definer member) after) :
    TracedStep.TakesOwn ⟨space, .defined definer member, after⟩ definer member where
  keeps := fun _ hnot => hstep.keeps_elsewhere hspace hnot
  applies := by
    intro other name hchanged
    have hsignature := hstep.of_defined.2 other name
    split at hsignature
    next hown =>
      obtain ⟨rfl, rfl⟩ := hown
      cases hwaiting : space.waiting? definer with
      | none =>
          rw [hwaiting] at hsignature
          exact (hchanged hsignature).elim
      | some waiting =>
          have hwaits := pending_of_waiting? hwaiting
          have htakes := (takesFrom_iff hspace hwaits).mpr hwaiting
          obtain ⟨htaken, hgone⟩ := hstep.takes hspace hwaits htakes
          exact ⟨⟨rfl, rfl⟩, waiting.1, waiting.2, htakes, hwaits, htaken, hgone⟩
    next => exact (hchanged hsignature).elim

theorem Step.keeps_empty
    {event : Event} (hstep : space.Step event after) (hempty : space.pending.get? scope = none)
    (hnot : ∀ replacing, event ≠ .annotated scope replacing) :
    after.pending.get? scope = none := by
  cases hstep with
  | @annotate other definition term replacing hother hsignature =>
      change (space.pending.put other replacing).get? scope = none
      rw [Table.get?_put, if_neg]
      · exact hempty
      · rintro rfl
        exact hnot replacing rfl
  | define made hscope =>
      rw [(Step.define made hscope).of_defined.1]
      split
      next => rfl
      next => exact hempty
  | quiet hquiet =>
      rw [hquiet.pending]
      exact hempty

/-! ### Whole histories -/

inductive Fate
  | pending
  | replaced
  | consumed (definer : ScopeId) (member : Symbol)

/-- What has become of an annotation on a scope at the end of a history: it
waits as long as no step settles it, and the first step that does decides. -/
inductive HasFate (scope : ScopeId) (signature : Signature) (final : ObjectSpace) :
    List TracedStep → Fate → Prop
  | pending (hwaits : final.pending.get? scope = some signature) :
      HasFate scope signature final [] .pending
  | later {step : TracedStep} {rest : List TracedStep} {fate : Fate}
      (hnot : ¬ step.Settles scope) (hwaits : step.after.pending.get? scope = some signature)
      (hrest : HasFate scope signature final rest fate) :
      HasFate scope signature final (step :: rest) fate
  | replaced {step : TracedStep} (rest : List TracedStep) {replacing : Signature}
      (hstep : step.event = .annotated scope replacing) :
      HasFate scope signature final (step :: rest) .replaced
  | consumed {step : TracedStep} (rest : List TracedStep) {definer : ScopeId} {member : Symbol}
      (hstep : step.event = .defined definer member)
      (htakes : step.before.TakesFrom scope definer)
      (hregistered : step.after.signature? definer member = some signature)
      (hgone : step.after.pending.get? scope = none) :
      HasFate scope signature final (step :: rest) (.consumed definer member)

theorem History.exists_fate
    {steps : List TracedStep} (h : space.History steps final) (hspace : space.WellScoped)
    (hwaits : space.pending.get? scope = some signature) :
    ∃ fate, HasFate scope signature final steps fate := by
  induction h with
  | refl => exact ⟨.pending, .pending hwaits⟩
  | @step space middle final event rest hstep hrest ih =>
      by_cases hsettles : TracedStep.Settles ⟨space, event, middle⟩ scope
      · cases event with
        | annotated other replacing =>
            obtain rfl : other = scope := hsettles
            exact ⟨.replaced, .replaced rest rfl⟩
        | defined definer member =>
            obtain ⟨hregistered, hgone⟩ := hstep.takes hspace hwaits hsettles
            exact ⟨.consumed definer member, .consumed rest rfl hsettles hregistered hgone⟩
        | other => exact hsettles.elim
      · have hmiddle := hstep.keeps_waiting hspace hwaits hsettles
        obtain ⟨fate, hfate⟩ := ih (hspace.step hstep) hmiddle
        exact ⟨fate, .later hsettles hmiddle hfate⟩

theorem TracedStep.settles_of_annotated
    {step : TracedStep} (hstep : step.event = .annotated scope signature) : step.Settles scope := by
  unfold Settles
  rw [hstep]

theorem TracedStep.settles_of_defined
    {step : TracedStep} (hstep : step.event = .defined definer member)
    (htakes : step.before.TakesFrom scope definer) : step.Settles scope := by
  unfold Settles
  rw [hstep]
  exact htakes

theorem HasFate.unique
    {steps : List TracedStep} {fate other : Fate}
    (h : HasFate scope signature final steps fate)
    (hother : HasFate scope signature final steps other) : fate = other := by
  induction h with
  | pending => cases hother with
    | pending => rfl
  | later hnot _ _ ih =>
      cases hother with
      | later _ _ hrest => exact ih hrest
      | replaced _ hstep => exact (hnot (TracedStep.settles_of_annotated hstep)).elim
      | consumed _ hstep htakes => exact (hnot (TracedStep.settles_of_defined hstep htakes)).elim
  | replaced _ hstep =>
      cases hother with
      | later hnot => exact (hnot (TracedStep.settles_of_annotated hstep)).elim
      | replaced => rfl
      | consumed _ hother =>
          rw [hstep] at hother
          cases hother
  | consumed _ hstep htakes =>
      cases hother with
      | later hnot => exact (hnot (TracedStep.settles_of_defined hstep htakes)).elim
      | replaced _ hother =>
          rw [hstep] at hother
          cases hother
      | consumed _ hother =>
          rw [hstep] at hother
          cases hother
          rfl

theorem History.split
    {front back : List TracedStep} (h : space.History (front ++ back) final) :
    ∃ middle, space.History front middle ∧ middle.History back final := by
  induction front generalizing space with
  | nil => exact ⟨space, .refl space, h⟩
  | cons first front ih =>
      cases h with
      | step hstep hrest =>
          obtain ⟨middle, hfront, hback⟩ := ih hrest
          exact ⟨middle, .step hstep hfront, hback⟩

theorem History.keeps_empty
    {steps : List TracedStep} (h : space.History steps final)
    (hempty : space.pending.get? scope = none)
    (hnot : ∀ step ∈ steps, ∀ replacing, step.event ≠ .annotated scope replacing) :
    final.pending.get? scope = none := by
  induction h with
  | refl => exact hempty
  | step hstep _ ih =>
      obtain ⟨hfirst, hrest⟩ := List.forall_mem_cons.mp hnot
      exact ih (hstep.keeps_empty hempty hfirst) hrest

/-- A definition has used up what was waiting on a scope. -/
def TracedStep.Consumes (step : TracedStep) (scope : ScopeId) : Prop :=
  (∃ definer member, step.event = .defined definer member) ∧
    (step.before.pending.get? scope).isSome ∧ step.after.pending.get? scope = none

/-- Between two definitions that consume what waits on a scope, the scope has
been annotated again. -/
theorem History.annotated_between
    {front middle back : List TracedStep} {first second : TracedStep}
    (h : space.History (front ++ first :: (middle ++ second :: back)) final)
    (hfirst : first.Consumes scope) (hsecond : second.Consumes scope) :
    ∃ step ∈ middle, ∃ replacing, step.event = .annotated scope replacing := by
  refine Classical.byContradiction fun hnone => ?_
  obtain ⟨_, -, hrest⟩ := h.split
  cases hrest with
  | step hstep hlater =>
      obtain ⟨before, hmiddle, hback⟩ := hlater.split
      have hempty : before.pending.get? scope = none := by
        apply hmiddle.keeps_empty hfirst.2.2
        intro step hmem replacing hannotated
        exact hnone ⟨step, hmem, replacing, hannotated⟩
      cases hback with
      | step =>
          have hwaits := hsecond.2.1
          rw [hempty] at hwaits
          cases hwaits

theorem History.takesOwn
    {steps : List TracedStep} (h : space.History steps final) (hspace : space.WellScoped)
    {step : TracedStep} (hmem : step ∈ steps) (hdefined : step.event = .defined definer member) :
    step.TakesOwn definer member := by
  induction h with
  | refl => cases hmem
  | step hstep _ ih =>
      rcases List.mem_cons.mp hmem with rfl | hlater
      · cases hdefined
        exact hstep.takesOwn hspace
      · exact ih (hspace.step hstep) hlater

/-! ### Operations that define members -/

/-- A member that is defined explicitly is under the annotated contract when the
operation is over. -/
theorem step_of_defineMember
    {visibility : Visibility} {parameters : Parameters} {body : Body} {response : Response}
    (h : space.perform (.defineMember definer member visibility parameters body) =
      (.ok response, after)) :
    space.Step (.defined definer member) after := by
  rw [perform_eq_inSteps, Operation.inSteps] at h
  obtain ⟨⟨definition, made⟩, hdefine, hpair⟩ :=
    map_eq_ok_iff.mp (Action.run_step_eq_ok_iff.mp h)
  obtain ⟨-, rfl⟩ := Prod.mk.inj hpair
  obtain ⟨⟨⟩, hscope, hmade⟩ := bind_eq_ok_iff.mp hdefine
  obtain ⟨found, hget⟩ := get?_of_ensureScope hscope
  cases hmade
  exact .define ⟨⟨member, definer, visibility, parameters⟩, body⟩ hget

theorem step_of_annotate
    {term : Term} {response : Response}
    (h : space.perform (.annotate (.scope scope) term) = (.ok response, after)) :
    ∃ signature, term.signature = .ok signature ∧
      space.Step (.annotated scope signature) after := by
  rw [perform_eq_inSteps, Operation.inSteps] at h
  obtain ⟨⟨⟨⟩, made⟩, hannotate, hpair⟩ := map_eq_ok_iff.mp (Action.run_step_eq_ok_iff.mp h)
  obtain ⟨-, rfl⟩ := Prod.mk.inj hpair
  obtain ⟨⟨⟩, hscope, hrest⟩ := bind_eq_ok_iff.mp hannotate
  obtain ⟨found, hget⟩ := get?_of_requireScope hscope
  obtain ⟨signature, hcompiled, hmade⟩ := bind_eq_ok_iff.mp hrest
  cases hmade
  have hsignature := mapError_eq_ok_iff.mp hcompiled
  exact ⟨signature, hsignature, .annotate hget hsignature⟩

variable {owner : ScopeId} {names : List String} {parameters : Parameters}

theorem signature?_provideMember
    {body : Body} (h : space.provideMember owner member parameters body = .ok after)
    {other : ScopeId} {name : Symbol} (hother : ¬ (owner = other ∧ member = name)) :
    after.signature? other name = space.signature? other name := by
  unfold provideMember at h
  split at h
  next =>
    cases h
    rfl
  next =>
    obtain ⟨⟨definition, defined⟩, hdefined, rfl⟩ := map_eq_ok_iff.mp h
    obtain ⟨⟨⟩, -, hmade⟩ := bind_eq_ok_iff.mp hdefined
    cases hmade
    exact (signature?_consumePending _ _ _ _).trans (if_neg hother)

/-- An accessor is under its own contract, and no other member is affected. -/
theorem signature?_accessor
    {body : Body} {result : Unit}
    (h : accessor owner member parameters body signature space = .ok (result, after))
    (other : ScopeId) (name : Symbol) :
    after.signature? other name =
      if owner = other ∧ member = name then some signature else space.signature? other name := by
  obtain ⟨provided, hprovided, hpair⟩ := bind_eq_ok_iff.mp h
  cases hpair
  rw [signature?_registerSignature]
  split
  next => rfl
  next hother => exact signature?_provideMember hprovided hother

theorem signature?_accessors
    {members : String → Symbol} {bodies : String → Body}
    (h : (names.forM fun name =>
      Action.step ContractError.scope
        (accessor owner (members name) parameters (bodies name) signature)).run space =
          (.ok (), after)) (name : Symbol) :
    after.signature? owner name =
      if name ∈ names.map members then some signature else space.signature? owner name := by
  induction names generalizing space with
  | nil =>
      cases h
      rfl
  | cons first rest ih =>
      obtain ⟨⟨⟩, middle, hfirst, hrest⟩ := Action.run_bind_eq_ok_iff.mp h
      rw [ih hrest, signature?_accessor (Action.run_step_eq_ok_iff.mp hfirst)]
      by_cases hlater : name ∈ rest.map members
      · simp [hlater]
      · simp [hlater, eq_comm]

theorem signature?_accessorOwner
    {carrier : ObjectSpace} {onSelf : Bool}
    (h : (accessorOwner onSelf scope).run space = (.ok owner, carrier))
    (other : ScopeId) (name : Symbol) :
    carrier.signature? other name = space.signature? other name := by
  obtain ⟨-, hcarrier⟩ := accessorOwner_eq_ok_iff.mp h
  cases onSelf with
  | false =>
      obtain ⟨-, rfl⟩ := hcarrier
      rfl
  | true =>
      obtain ⟨table, -, rfl⟩ := singletonOf_of_singletonScope hcarrier
      rfl

theorem signature?_half
    {signature : Except ContractError Signature} {members : String → Symbol}
    {bodies : String → Body} {onSelf : Bool}
    (h : (accessorOwner onSelf scope >>= fun owner =>
      defineAccessors owner names signature members parameters bodies).run space =
        (.ok (), after)) :
    ∃ owner own, space.CarriesAccessors onSelf scope owner ∧ signature = .ok own ∧
      ∀ name, after.signature? owner name =
        if name ∈ names.map members then some own else space.signature? owner name := by
  obtain ⟨owner, carrier, howner, hdefine⟩ := Action.run_bind_eq_ok_iff.mp h
  obtain ⟨-, own, hown, hall⟩ := defineAccessors_granted hdefine
  refine ⟨owner, own, (carriesAccessors_of_accessorOwner howner).1, hown, ?_⟩
  intro name
  rw [signature?_accessors hall, signature?_accessorOwner howner]

theorem CarriesAccessors.unique
    {onSelf : Bool} {other : ScopeId} (h : space.CarriesAccessors onSelf scope owner)
    (hother : space.CarriesAccessors onSelf scope other) : other = owner := by
  unfold CarriesAccessors at h hother
  cases onSelf with
  | false => exact (hother : other = scope).trans (h : owner = scope).symm
  | true =>
      obtain ⟨made, hmade⟩ := h
      obtain ⟨again, hagain⟩ := hother
      rw [hmade] at hagain
      cases hagain
      rfl

/-- The members that accessors stand for are under the contracts of accessors: a
writer under that of writers, and a reader under that of readers unless it is
also a writer. -/
structure HoldsAccessors
    (space : ObjectSpace)
    (kind : AccessorKind)
    (owner : ScopeId)
    (names : List String)
    (behavior : Term) : Prop where
  readers : kind ≠ .writer → ∀ name ∈ names, ∃ own,
    space.signature? owner ⟨name⟩ = some own ∧
      (readerSignature behavior = .ok own ∨
        kind = .both ∧ (∃ other ∈ names, Symbol.setter ⟨other⟩ = ⟨name⟩) ∧
          writerSignature behavior = .ok own)
  writers : kind ≠ .reader → ∀ name ∈ names, ∃ own,
    space.signature? owner (Symbol.setter ⟨name⟩) = some own ∧ writerSignature behavior = .ok own

/-- When typed accessors are declared, their own contracts are in force at the
end, whatever annotation their definitions have taken. -/
theorem holdsAccessors_of_perform
    {kind : AccessorKind} {onSelf : Bool} {behavior : Term} {response : Response}
    (h : space.perform (.typedAccessors kind onSelf scope names behavior) =
      (.ok response, after)) :
    ∃ owner, space.CarriesAccessors onSelf scope owner ∧
      after.HoldsAccessors kind owner names behavior := by
  obtain ⟨⟨⟩, hrun, -⟩ := Action.run_respond_eq_ok_iff.mp h
  cases kind with
  | reader =>
      obtain ⟨owner, own, hcarries, hown, hall⟩ := signature?_half hrun
      refine ⟨owner, hcarries, ⟨fun _ name hname => ⟨own, ?_, .inl hown⟩, (· rfl |>.elim)⟩⟩
      rw [hall, if_pos (List.mem_map_of_mem hname)]
  | writer =>
      obtain ⟨owner, own, hcarries, hown, hall⟩ := signature?_half hrun
      refine ⟨owner, hcarries, ⟨(· rfl |>.elim), fun _ name hname => ⟨own, ?_, hown⟩⟩⟩
      rw [hall, if_pos (List.mem_map.mpr ⟨name, hname, rfl⟩)]
  | both =>
      obtain ⟨⟨⟩, middle, hread, hwrite⟩ := Action.run_bind_eq_ok_iff.mp hrun
      obtain ⟨owner, reading, hcarries, hreading, hreaders⟩ := signature?_half hread
      obtain ⟨other, writing, hother, hwriting, hwriters⟩ := signature?_half hwrite
      obtain rfl : other = owner := by
        obtain ⟨found, -, hfound, -, -, hsame⟩ := typedReader_gains hread
        rw [hsame other hother, hcarries.unique hfound]
      refine ⟨other, hcarries,
        ⟨fun _ name hname => ?_, fun _ name hname => ⟨writing, ?_, hwriting⟩⟩⟩
      · by_cases hsetter : ⟨name⟩ ∈ names.map fun name => Symbol.setter ⟨name⟩
        · obtain ⟨written, hwritten, hsame⟩ := List.mem_map.mp hsetter
          refine ⟨writing, ?_, .inr ⟨rfl, ⟨written, hwritten, hsame⟩, hwriting⟩⟩
          rw [hwriters, if_pos hsetter]
        · refine ⟨reading, ?_, .inl hreading⟩
          rw [hwriters, if_neg hsetter, hreaders, if_pos (List.mem_map_of_mem hname)]
      · rw [hwriters, if_pos (List.mem_map.mpr ⟨name, hname, rfl⟩)]

/-! ### No annotation is lost -/

/-- From a successful annotation on, every history decides its fate: it waits, it
has been replaced, or the first member that took it has been put under the
annotated contract.  Definitions on other scopes leave it alone, and what one
definition has consumed no other consumes again.  At the end of an explicit
definition the annotated contract is in force; accessors end with their own. -/
theorem annotation_has_one_fate
    (hspace : space.IsReachable) {term : Term} {response : Response}
    (hannotate : space.perform (.annotate (.scope scope) term) = (.ok response, annotated)) :
    ∃ signature, term.signature = .ok signature ∧
      (∀ later, annotated.Becomes later → ∃ steps, annotated.History steps later) ∧
      (∀ steps later, annotated.History steps later →
        (∃! fate, HasFate scope signature later steps fate) ∧
        (∀ step ∈ steps, ∀ definer member, step.event = .defined definer member →
          step.TakesOwn definer member) ∧
        ∀ front first middle second back,
          steps = front ++ first :: (middle ++ second :: back) →
            first.Consumes scope → second.Consumes scope →
              ∃ step ∈ middle, ∃ replacing, step.event = .annotated scope replacing) ∧
      (∀ before : ObjectSpace, before.IsReachable →
        before.pending.get? scope = some signature →
        ∀ definer member visibility parameters body made after,
          before.TakesFrom scope definer →
          before.perform (.defineMember definer member visibility parameters body) =
            (.ok made, after) →
          after.signature? definer member = some signature) ∧
      ∀ (before : ObjectSpace) kind onSelf declared names behavior made after,
        before.perform (.typedAccessors kind onSelf declared names behavior) =
            (.ok made, after) →
          ∃ owner, before.CarriesAccessors onSelf declared owner ∧
            after.HoldsAccessors kind owner names behavior := by
  obtain ⟨signature, hsignature, hstep⟩ := step_of_annotate hannotate
  have hwell : annotated.WellScoped := hspace.wellScoped.step hstep
  have hwaits : annotated.pending.get? scope = some signature := by
    cases hstep with
    | annotate => exact (Table.get?_put _ _ _ _).trans (if_pos rfl)
  refine ⟨signature, hsignature, fun _ => Becomes.history, ?_, ?_, ?_⟩
  · intro steps later hhistory
    obtain ⟨fate, hfate⟩ := hhistory.exists_fate hwell hwaits
    refine ⟨⟨fate, hfate, fun _ hother => hother.unique hfate⟩, ?_, ?_⟩
    · intro step hmem definer member hdefined
      exact hhistory.takesOwn hwell hmem hdefined
    · rintro front first middle second back rfl hfirst hsecond
      exact hhistory.annotated_between hfirst hsecond
  · intro before hbefore hpending definer member visibility parameters body made after htakes
      hdefine
    exact ((step_of_defineMember hdefine).takes hbefore.wellScoped hpending htakes).1
  · intro before kind onSelf declared names behavior made after hdeclare
    exact holdsAccessors_of_perform hdeclare

theorem annotation_has_one_fate_under_a_definition :
    ∃ (space annotated after : ObjectSpace) (made : Response),
      space.perform (.annotate (.scope .object) (.spec (.list []) .any)) =
          (.ok .done, annotated) ∧
        annotated.perform
            (.defineMember .object ⟨"size"⟩ .publicAccess .none (.reader "size")) =
          (.ok made, after) ∧
        after.signature? .object ⟨"size"⟩ = some ⟨[], [], .anything⟩ := by
  let space := (ObjectSpace.initial ⟨0⟩ .standard []).withRegistry []
  let annotated := { space with pending := space.pending.put .object ⟨[], [], .anything⟩ }
  have hspace : space.IsReachable := ⟨[.standard], [], 0, space, rfl, .refl⟩
  have hmade : space.annotate (.scope .object) (.spec (.list []) .any) = .ok ((), annotated) := rfl
  have hannotate : space.perform (.annotate (.scope .object) (.spec (.list []) .any)) =
      (.ok .done, annotated) := by
    rw [perform_eq_inSteps, Operation.inSteps, Action.run_change, hmade]
  obtain ⟨made, hdefine⟩ : ∃ made, annotated.defineMember .object ⟨"size"⟩ .publicAccess .none
      (.reader "size") = .ok made := ⟨_, rfl⟩
  have hperform : annotated.perform
      (.defineMember .object ⟨"size"⟩ .publicAccess .none (.reader "size")) =
        (.ok (.member made.1), made.2) := by
    rw [perform_eq_inSteps, Operation.inSteps, Action.run_change, hdefine]
  have hannotated : annotated.IsReachable := by
    have hreaches := space.perform_reaches (.annotate (.scope .object) (.spec (.list []) .any))
    rw [hannotate] at hreaches
    exact ⟨[.standard], [], 0, space, rfl, hreaches⟩
  obtain ⟨signature, hsignature, -, -, hdefinitions, -⟩ := annotation_has_one_fate hspace hannotate
  cases hsignature
  exact ⟨space, annotated, _, _, hannotate, hperform,
    hdefinitions annotated hannotated rfl _ _ _ _ _ _ _ (.inl rfl) hperform⟩

/-- A reader that defines its member consumes the annotation, but the member ends
up under the contract of the reader. -/
theorem accessors_put_annotations_aside :
    ∃ (space annotated after : ObjectSpace) (response : Response),
      space.IsReachable ∧
        space.perform (.annotate (.scope .object) (.spec (.list [.any]) .any)) =
          (.ok .done, annotated) ∧
        annotated.perform (.typedAccessors .reader false .object ["size"] .any) =
          (.ok response, after) ∧
        (annotated.ownMember? .object ⟨"size"⟩).isSome = false ∧
        (after.ownMember? .object ⟨"size"⟩).isSome = true ∧
        after.pending.contains .object = false ∧
        (Term.spec (.list [.any]) .any).signature = .ok ⟨[.anything], [], .anything⟩ ∧
        after.signature? .object ⟨"size"⟩ = some ⟨[], [], .anything⟩ := by
  let space := (ObjectSpace.initial ⟨0⟩ .standard []).withRegistry []
  let annotated :=
    { space with pending := space.pending.put .object ⟨[.anything], [], .anything⟩ }
  have hspace : space.IsReachable := ⟨[.standard], [], 0, space, rfl, .refl⟩
  have hmade : space.annotate (.scope .object) (.spec (.list [.any]) .any) =
      .ok ((), annotated) := rfl
  have hannotate : space.perform (.annotate (.scope .object) (.spec (.list [.any]) .any)) =
      (.ok .done, annotated) := by
    rw [perform_eq_inSteps, Operation.inSteps, Action.run_change, hmade]
  have hdeclared : (annotated.perform
      (.typedAccessors .reader false .object ["size"] .any)).1.isOk = true := by decide +kernel
  have hmissing : (annotated.ownMember? .object ⟨"size"⟩).isSome = false := by decide +kernel
  have hdefined : ((annotated.perform (.typedAccessors .reader false .object ["size"]
      .any)).2.ownMember? .object ⟨"size"⟩).isSome = true := by decide +kernel
  have hconsumed : (annotated.perform (.typedAccessors .reader false .object ["size"]
      .any)).2.pending.contains .object = false := by decide +kernel
  rcases hperform : annotated.perform (.typedAccessors .reader false .object ["size"] .any) with
    ⟨outcome, after⟩
  rw [hperform] at hdeclared hdefined hconsumed
  cases outcome with
  | error failure => cases hdeclared
  | ok response =>
      obtain ⟨owner, rfl, hholds⟩ := holdsAccessors_of_perform hperform
      obtain ⟨own, hown, hreader | ⟨hboth, -⟩⟩ :=
        hholds.readers (by decide) "size" List.mem_cons_self
      · cases hreader
        exact ⟨space, annotated, after, response, hspace, hannotate, hperform, hmissing, hdefined,
          hconsumed, rfl, hown⟩
      · cases hboth

end CallContract.ObjectSpace
