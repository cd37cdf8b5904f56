import CallContract.ObjectSpace.Contracts

/-!
# Operations on object spaces

Everything that can happen to an object space is one of a number of
operations.  All of them but calls are decided here; what a call from outside
does depends on the members that it reaches.
-/

namespace CallContract

/-- From where a member is called: from outside any receiver, from a body that
runs for another receiver, or by the receiver itself. -/
inductive CallMode
  | external
  | nested (caller : Value)
  | selfSend

abbrev Run (α : Type) : Type :=
  Action CallError α

/-- What calls from outside do. -/
abbrev OutsideCalls : Type :=
  CallMode → Value → Symbol → Arguments → Action Failure Value

/-- An atomic change as an operation. -/
def Action.change
    (wrap : ε → Failure)
    (respond : α → Response)
    (change : ObjectSpace → Except ε (α × ObjectSpace)) : Action Failure Response :=
  Action.step wrap fun space => (change space).map fun (result, space) => (respond result, space)

theorem Action.run_change
    (wrap : ε → Failure)
    (respond : α → Response)
    (change : ObjectSpace → Except ε (α × ObjectSpace))
    (space : ObjectSpace) :
    (Action.change wrap respond change).run space =
      match change space with
      | .ok (result, changed) => (.ok (respond result), changed)
      | .error error => (.error (wrap error), space) := by
  simp only [Action.change, Action.step, ExceptT.run_mk]
  cases change space <;> rfl

/-- Performs an operation in place, given what calls from outside do. -/
def Operation.perform (fromOutside : OutsideCalls) : Operation → Action Failure Response
  | .defineClass name superclass => (Action.defineClass name superclass).respond .scope .scope
  | .defineModule name => (Action.defineModule name).respond .scope .scope
  | .includeModule scope included =>
      (Action.includeModule scope included).respond .scope fun _ => .done
  | .newObject ofClass => (Action.newObject ofClass).respond .scope .value
  | .singleton receiver => (Action.singletonScope receiver).respond .scope .scope
  | .defineMember scope name visibility parameters body =>
      (Action.defineMember scope name visibility parameters body).respond .scope .member
  | .setVisibility scope name visibility =>
      (Action.setVisibility scope name visibility).respond .call fun _ => .done
  | .writeVariable receiver name value =>
      (Action.writeVariable receiver name value).respond .call fun _ => .done
  | .register scope member term =>
      (Action.register scope member term).respond .signature .signature
  | .contract scope member term =>
      (Action.contract scope member term).respond .contract .signature
  | .contractSelf scope member term =>
      (Action.contractSelf scope member term).respond .contract .signature
  | .contractOn receiver member term =>
      (Action.contractOn receiver member term).respond .contract .signature
  | .annotate receiver term => (Action.annotate receiver term).respond .contract fun _ => .done
  | .typedAccessors kind onSelf scope names behavior =>
      .respond .contract (fun _ => .done)
        (ObjectSpace.typedAccessors kind onSelf scope names behavior)
  | .call receiver member arguments =>
      .respond id .value (fromOutside .external receiver member arguments)
  | .send receiver member arguments =>
      .respond id .value (fromOutside .selfSend receiver member arguments)
  | .clearTrace => ExceptT.mk fun space => (.ok .done, space.clearTrace)

/-- The operations with those that are single steps put as such. -/
def Operation.inSteps (fromOutside : OutsideCalls) : Operation → Action Failure Response
  | .defineClass name superclass => .change .scope .scope (·.defineClass name superclass)
  | .defineModule name => .change .scope .scope (·.defineModule name)
  | .includeModule scope included =>
      .change .scope (fun _ => .done) (Action.silently (·.includeModule scope included))
  | .newObject ofClass => .change .scope .value (·.newObject ofClass)
  | .singleton receiver => .change .scope .scope (·.singletonScope receiver)
  | .defineMember scope name visibility parameters body =>
      .change .scope .member (·.defineMember scope name visibility parameters body)
  | .setVisibility scope name visibility =>
      .change .call (fun _ => .done) (Action.silently (·.setVisibility scope name visibility))
  | .writeVariable receiver name value =>
      .change .call (fun _ => .done) (Action.silently (·.writeVariable receiver name value))
  | .register scope member term =>
      .change .signature .signature (·.compileAndRegister scope member term)
  | .contract scope member term => .change .contract .signature (·.contract scope member term)
  | .contractSelf scope member term =>
      .change .contract .signature (·.contractSelf scope member term)
  | .contractOn receiver member term =>
      .change .contract .signature (·.contractOn receiver member term)
  | .annotate receiver term => .change .contract (fun _ => .done) (·.annotate receiver term)
  | .typedAccessors kind onSelf scope names behavior =>
      .respond .contract (fun _ => .done)
        (ObjectSpace.typedAccessors kind onSelf scope names behavior)
  | .call receiver member arguments =>
      .respond id .value (fromOutside .external receiver member arguments)
  | .send receiver member arguments =>
      .respond id .value (fromOutside .selfSend receiver member arguments)
  | .clearTrace => ExceptT.mk fun space => (.ok .done, space.clearTrace)

theorem Action.respond_step
    (wrap : ε → Failure) (respond : α → Response)
    (change : ObjectSpace → Except ε (α × ObjectSpace)) :
    (Action.step id change).respond wrap respond = Action.change wrap respond change := by
  apply Action.ext
  intro space
  rw [run_change, Action.respond, run_handle]
  simp only [step, ExceptT.run_mk]
  cases change space <;> rfl

theorem Operation.perform_eq_inSteps
    (fromOutside : OutsideCalls) (operation : Operation) :
    operation.perform fromOutside = operation.inSteps fromOutside := by
  cases operation with
  | typedAccessors | call | send | clearTrace => rfl
  | defineClass => rw [perform, Action.defineClass_eq_step, Action.respond_step, inSteps]
  | defineModule => rw [perform, Action.defineModule_eq_step, Action.respond_step, inSteps]
  | includeModule => rw [perform, Action.includeModule_eq_step, Action.respond_step, inSteps]
  | newObject => rw [perform, Action.newObject_eq_step, Action.respond_step, inSteps]
  | singleton => rw [perform, Action.singletonScope_eq_step, Action.respond_step, inSteps]
  | defineMember => rw [perform, Action.defineMember_eq_step, Action.respond_step, inSteps]
  | setVisibility => rw [perform, Action.setVisibility_eq_step, Action.respond_step, inSteps]
  | writeVariable => rw [perform, Action.writeVariable_eq_step, Action.respond_step, inSteps]
  | register => rw [perform, Action.register_eq_step, Action.respond_step, inSteps]
  | contract => rw [perform, Action.contract_eq_step, Action.respond_step, inSteps]
  | contractSelf => rw [perform, Action.contractSelf_eq_step, Action.respond_step, inSteps]
  | contractOn => rw [perform, Action.contractOn_eq_step, Action.respond_step, inSteps]
  | annotate => rw [perform, Action.annotate_eq_step, Action.respond_step, inSteps]

end CallContract
