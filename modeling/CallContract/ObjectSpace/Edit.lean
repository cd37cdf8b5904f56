import CallContract.ObjectSpace.Action

/-!
# Edits of object spaces

An object space is edited in place, one store after the other, and what an
edit has written before an error stays written.  Each edit below comes to a
single step that changes nothing if it fails, because it asks everything that
it has to ask before it writes.
-/

namespace CallContract

namespace Action

theorem ext
    {first second : Action ε α} (h : ∀ space, first.run space = second.run space) :
    first = second :=
  funext h

/-- Asks the object space, which may refuse to answer. -/
def consult (question : ObjectSpace → Except ε α) : Action ε α :=
  ExceptT.mk fun space => (question space, space)

/-- Edits the table of scopes in its place. -/
def onScopes (edit : ScopeTable.Edit α) : Action ScopeError α :=
  ExceptT.mk fun space =>
    match edit.run space.scopes with
    | (outcome, scopes) => (outcome, { space with scopes := scopes })

/-- A change without a result. -/
def silently
    (change : ObjectSpace → Except ε ObjectSpace)
    (space : ObjectSpace) : Except ε (Unit × ObjectSpace) :=
  (change space).map fun space => ((), space)

/-- An action with its errors in other words. -/
def failingAs (wrap : ε → ε') (action : Action ε α) : Action ε' α :=
  action.respond wrap id

/-! ### Scopes and objects -/

def defineClass (name : String) (superclass : Option ScopeId) : Action ScopeError ScopeId :=
  onScopes (.defineClass name superclass)

def defineModule (name : String) : Action ScopeError ScopeId :=
  onScopes (.defineModule name)

def includeModule (scope included : ScopeId) : Action ScopeError Unit :=
  onScopes (.includeModule scope included)

def newObject (ofClass : ScopeId) : Action ScopeError Value := do
  let definition ← consult (·.scopes.find ofClass)
  if definition.kind = .classScope then
    modifyGet fun space =>
      (.object ⟨space.nextObject, ofClass⟩,
        { space with nextObject := ⟨space.nextObject.number + 1⟩ })
  else throw (.notClass definition.name)

def singletonScope (receiver : Value) : Action ScopeError ScopeId :=
  match receiver.attachment? with
  | none => throw (.noSingleton receiver.typeName)
  | some attached => onScopes (.singletonOf attached)

/-! ### Instance variables and members -/

def writeVariable (receiver : Value) (name : String) (value : Value) : Action CallError Unit :=
  match receiver.attachment? with
  | some holder =>
      modify fun space =>
        { space with variableValues := space.variableValues.put ⟨holder, name⟩ value }
  | none => throw (.raised ("can't modify frozen " ++ receiver.typeName))

def defineMember
    (scope : ScopeId)
    (name : Symbol)
    (visibility : Visibility)
    (parameters : Parameters)
    (body : Body) : Action ScopeError MemberDefinition := do
  consult (·.ensureScope scope)
  let definition : MemberDefinition := ⟨name, scope, visibility, parameters⟩
  modify (·.insertMember ⟨definition, body⟩)
  modify (·.consumePending scope name)
  pure definition

def setVisibility
    (scope : ScopeId)
    (name : Symbol)
    (visibility : Visibility) : Action CallError Unit := do
  let member ← consult fun space =>
    match space.ownMember? scope name with
    | some member => .ok member
    | none => .error (.noMethod name (space.scopeName scope))
  modify fun space =>
    { space with
      members := space.members.put ⟨scope, name⟩
        { member with definition := { member.definition with visibility := visibility } } }

/-! ### Edits as single steps -/

theorem failingAs_step
    (wrap : ε → ε') (change : ObjectSpace → Except ε (α × ObjectSpace)) :
    (step id change).failingAs wrap = step wrap change := by
  apply ext
  intro space
  simp only [failingAs, respond, run_handle, step, ExceptT.run_mk]
  cases change space <;> rfl

theorem run_consult_bind
    (question : ObjectSpace → Except ε α) (next : α → Action ε β) (space : ObjectSpace) :
    (consult question >>= next).run space =
      match question space with
      | .ok answer => (next answer).run space
      | .error error => (.error error, space) := by
  rw [run_bind]
  unfold consult
  rw [ExceptT.run_mk]
  cases question space <;> rfl

theorem liftM_eq_consult (outcome : Except ε α) :
    (liftM outcome : Action ε α) = consult fun _ => outcome :=
  rfl

/-- What is consulted before a step only decides whether the step is made. -/
theorem consult_bind_eq_step
    {question : ObjectSpace → Except ε α} {next : α → Action ε β}
    {change : α → ObjectSpace → Except ε (β × ObjectSpace)}
    (hnext : ∀ answer, next answer = step id (change answer)) :
    (consult question >>= next) =
      step id (fun space => question space >>= fun answer => change answer space) := by
  apply ext
  intro space
  simp only [run_consult_bind, step, ExceptT.run_mk]
  cases question space with
  | error error => rfl
  | ok answer => exact congrArg (fun action => action.run space) (hnext answer)

/-- An edit of the table that writes last is a step. -/
theorem onScopes_eq_step {edit : ScopeTable.Edit α} (hedit : edit.IsAtomic) :
    onScopes edit =
      step id (fun space => do
        let (result, scopes) ← edit.commit space.scopes
        pure (result, { space with scopes := scopes })) := by
  apply ext
  intro space
  have hkept := hedit space.scopes
  simp only [onScopes, step, ScopeTable.Edit.commit, ExceptT.run_mk]
  rcases hrun : edit.run space.scopes with ⟨outcome, scopes⟩
  cases outcome with
  | ok result => rfl
  | error error =>
      rw [hkept error scopes hrun]
      rfl

theorem defineClass_eq_step (name : String) (superclass : Option ScopeId) :
    defineClass name superclass = step id (·.defineClass name superclass) :=
  onScopes_eq_step (ScopeTable.Edit.defineClass_isAtomic name superclass)

theorem defineModule_eq_step (name : String) :
    defineModule name = step id (·.defineModule name) :=
  onScopes_eq_step (ScopeTable.Edit.defineModule_isAtomic name)

theorem includeModule_eq_step (scope included : ScopeId) :
    includeModule scope included = step id (silently (·.includeModule scope included)) := by
  refine (onScopes_eq_step (ScopeTable.Edit.includeModule_isAtomic scope included)).trans ?_
  refine congrArg (step id) (funext fun space => ?_)
  simp only [silently, ObjectSpace.includeModule, ScopeTable.includeModule]
  cases (ScopeTable.Edit.includeModule scope included).commit space.scopes <;> rfl

theorem newObject_eq_step (ofClass : ScopeId) :
    newObject ofClass = step id (·.newObject ofClass) := by
  apply consult_bind_eq_step
  intro definition
  apply ext
  intro space
  split <;> rfl

theorem singletonScope_eq_step (receiver : Value) :
    singletonScope receiver = step id (·.singletonScope receiver) := by
  unfold singletonScope ObjectSpace.singletonScope
  cases receiver.attachment? with
  | none => rfl
  | some attached => exact onScopes_eq_step (ScopeTable.Edit.singletonOf_isAtomic attached)

theorem writeVariable_eq_step (receiver : Value) (name : String) (value : Value) :
    writeVariable receiver name value =
      step id (silently (·.writeVariable receiver name value)) := by
  unfold writeVariable silently ObjectSpace.writeVariable
  cases receiver.attachment? <;> rfl

theorem defineMember_eq_step
    (scope : ScopeId) (name : Symbol) (visibility : Visibility) (parameters : Parameters)
    (body : Body) :
    defineMember scope name visibility parameters body =
      step id (·.defineMember scope name visibility parameters body) :=
  consult_bind_eq_step fun _ => rfl

theorem setVisibility_eq_step (scope : ScopeId) (name : Symbol) (visibility : Visibility) :
    setVisibility scope name visibility =
      step id (silently (·.setVisibility scope name visibility)) := by
  apply ext
  intro space
  simp only [setVisibility, silently, ObjectSpace.setVisibility, run_consult_bind, step,
    ExceptT.run_mk]
  cases space.ownMember? scope name <;> rfl

end Action

end CallContract
