import CallContract.ObjectSpace.Edit

/-!
# Putting members under contract

A contract is compiled before anything is changed, and it may be registered
before or after its member is defined.  An annotation is kept until the next
member is defined on its scope.  Typed accessors define readers and writers of
instance variables where they are missing and put them under contract, one
name after the other; what was written for earlier names, or for the readers
before the writers, stays written when a later part fails.
-/

namespace CallContract

namespace ObjectSpace

def requireScope (space : ObjectSpace) (id : ScopeId) : Except ContractError Unit :=
  match space.scopes.get? id with
  | some _ => .ok ()
  | none => .error (.unknownScope id)

def compile (term : Term) : Except ContractError Signature :=
  term.signature.mapError .signature

/-- Registers a contract without looking at its scope. -/
def compileAndRegister
    (space : ObjectSpace)
    (scope : ScopeId)
    (member : Symbol)
    (term : Term) : Except SignatureError (Signature × ObjectSpace) := do
  let signature ← term.signature
  pure (signature, space.registerSignature scope member signature)

/-- Contracts a member of the instances of a scope. -/
def contract
    (space : ObjectSpace)
    (scope : ScopeId)
    (member : Symbol)
    (term : Term) : Except ContractError (Signature × ObjectSpace) := do
  space.requireScope scope
  let signature ← compile term
  pure (signature, space.registerSignature scope member signature)

/-- Contracts a member on the singleton of a value. -/
def contractSingleton
    (space : ObjectSpace)
    (receiver : Value)
    (member : Symbol)
    (term : Term) : Except ContractError (Signature × ObjectSpace) := do
  let signature ← compile term
  let (singleton, space) ← (space.singletonScope receiver).mapError .scope
  pure (signature, space.registerSignature singleton member signature)

/-- Contracts a member of a scope itself. -/
def contractSelf
    (space : ObjectSpace)
    (scope : ScopeId)
    (member : Symbol)
    (term : Term) : Except ContractError (Signature × ObjectSpace) := do
  space.requireScope scope
  space.contractSingleton (.scope scope) member term

/-- Contracts a member for a receiver: for the instances of a scope, or for one
object. -/
def contractOn
    (space : ObjectSpace)
    (receiver : Value)
    (member : Symbol)
    (term : Term) : Except ContractError (Signature × ObjectSpace) :=
  match receiver with
  | .scope scope => space.contract scope member term
  | receiver => space.contractSingleton receiver member term

/-- Keeps a contract for the next member that is defined on a scope, in place
of one that is kept already. -/
def annotate
    (space : ObjectSpace)
    (receiver : Value)
    (term : Term) : Except ContractError (Unit × ObjectSpace) :=
  match receiver with
  | .scope scope => do
      space.requireScope scope
      let signature ← compile term
      pure ((), { space with pending := space.pending.put scope signature })
  | receiver => .error (.notAScope (space.describe receiver))

/-- Defines a public member where instances have none. -/
def provideMember
    (space : ObjectSpace)
    (owner : ScopeId)
    (member : Symbol)
    (parameters : Parameters)
    (body : Body) : Except ScopeError ObjectSpace :=
  if space.definesMember owner member then .ok space
  else (space.defineMember owner member .publicAccess parameters body).map Prod.snd

/-- Provides a member and puts it under contract. -/
def accessor
    (owner : ScopeId)
    (member : Symbol)
    (parameters : Parameters)
    (body : Body)
    (signature : Signature)
    (space : ObjectSpace) : Except ScopeError (Unit × ObjectSpace) := do
  let space ← space.provideMember owner member parameters body
  pure ((), space.registerSignature owner member signature)

end ObjectSpace

/-! ### In place -/

namespace Action

open ObjectSpace (compile)

def register (scope : ScopeId) (member : Symbol) (term : Term) :
    Action SignatureError Signature := do
  let signature ← term.signature
  modify (·.registerSignature scope member signature)
  pure signature

def contract (scope : ScopeId) (member : Symbol) (term : Term) :
    Action ContractError Signature := do
  consult (·.requireScope scope)
  let signature ← compile term
  modify (·.registerSignature scope member signature)
  pure signature

def contractSingleton (receiver : Value) (member : Symbol) (term : Term) :
    Action ContractError Signature := do
  let signature ← compile term
  let singleton ← (singletonScope receiver).failingAs .scope
  modify (·.registerSignature singleton member signature)
  pure signature

def contractSelf (scope : ScopeId) (member : Symbol) (term : Term) :
    Action ContractError Signature := do
  consult (·.requireScope scope)
  contractSingleton (.scope scope) member term

def contractOn (receiver : Value) (member : Symbol) (term : Term) :
    Action ContractError Signature :=
  match receiver with
  | .scope scope => contract scope member term
  | receiver => contractSingleton receiver member term

def annotate (receiver : Value) (term : Term) : Action ContractError Unit :=
  match receiver with
  | .scope scope => do
      consult (·.requireScope scope)
      let signature ← compile term
      modify fun space => { space with pending := space.pending.put scope signature }
  | receiver => consult fun space => .error (.notAScope (space.describe receiver))

def provideMember
    (owner : ScopeId)
    (member : Symbol)
    (parameters : Parameters)
    (body : Body) : Action ScopeError Unit := do
  if (← get).definesMember owner member then pure ()
  else
    let _ ← defineMember owner member .publicAccess parameters body

def accessor
    (owner : ScopeId)
    (member : Symbol)
    (parameters : Parameters)
    (body : Body)
    (signature : Signature) : Action ScopeError Unit := do
  provideMember owner member parameters body
  modify (·.registerSignature owner member signature)

theorem register_eq_step (scope : ScopeId) (member : Symbol) (term : Term) :
    register scope member term = step id (·.compileAndRegister scope member term) := by
  rw [register, liftM_eq_consult]
  exact consult_bind_eq_step fun _ => rfl

theorem contract_eq_step (scope : ScopeId) (member : Symbol) (term : Term) :
    contract scope member term = step id (·.contract scope member term) := by
  apply consult_bind_eq_step
  intro _
  rw [liftM_eq_consult]
  exact consult_bind_eq_step fun _ => rfl

/-- Nothing can fail after the singleton has been made. -/
theorem contractSingleton_eq_step (receiver : Value) (member : Symbol) (term : Term) :
    contractSingleton receiver member term =
      step id (·.contractSingleton receiver member term) := by
  rw [contractSingleton, liftM_eq_consult]
  apply consult_bind_eq_step
  intro signature
  rw [singletonScope_eq_step, failingAs_step]
  apply ext
  intro space
  simp only [run_bind, step, ExceptT.run_mk]
  cases space.singletonScope receiver <;> rfl

theorem contractSelf_eq_step (scope : ScopeId) (member : Symbol) (term : Term) :
    contractSelf scope member term = step id (·.contractSelf scope member term) :=
  consult_bind_eq_step fun _ => contractSingleton_eq_step (.scope scope) member term

theorem contractOn_eq_step (receiver : Value) (member : Symbol) (term : Term) :
    contractOn receiver member term = step id (·.contractOn receiver member term) := by
  cases receiver with
  | scope scope => exact contract_eq_step scope member term
  | _ => exact contractSingleton_eq_step _ member term

theorem annotate_eq_step (receiver : Value) (term : Term) :
    annotate receiver term = step id (·.annotate receiver term) := by
  cases receiver with
  | scope scope =>
      apply consult_bind_eq_step
      intro _
      rw [liftM_eq_consult]
      exact consult_bind_eq_step fun _ => rfl
  | _ => rfl

theorem provideMember_eq_step
    (owner : ScopeId) (member : Symbol) (parameters : Parameters) (body : Body) :
    provideMember owner member parameters body =
      step id (silently (·.provideMember owner member parameters body)) := by
  apply ext
  intro space
  unfold provideMember
  rw [run_bind, run_get, defineMember_eq_step]
  simp only [silently, ObjectSpace.provideMember, step, ExceptT.run_mk]
  split
  next => rfl
  next =>
    rw [run_bind, ExceptT.run_mk]
    cases space.defineMember owner member .publicAccess parameters body <;> rfl

theorem accessor_eq_step
    (owner : ScopeId) (member : Symbol) (parameters : Parameters) (body : Body)
    (signature : Signature) :
    accessor owner member parameters body signature =
      step id (ObjectSpace.accessor owner member parameters body signature) := by
  apply ext
  intro space
  rw [accessor, run_bind, provideMember_eq_step]
  simp only [silently, ObjectSpace.accessor, step, ExceptT.run_mk]
  cases space.provideMember owner member parameters body <;> rfl

end Action

namespace ObjectSpace

/-! ### Typed accessors -/

def readerSignature (behavior : Term) : Except ContractError Signature :=
  compile (.spec (.list []) behavior)

def writerSignature (behavior : Term) : Except ContractError Signature :=
  compile (.spec (.list [behavior]) .any)

def checkNames (names : List String) : Except ContractError Unit :=
  if names.any (·.isEmpty) then .error .missingName else .ok ()

/-- Provides one accessor for each name under the same contract. -/
def defineAccessors
    (owner : ScopeId)
    (names : List String)
    (signature : Except ContractError Signature)
    (member : String → Symbol)
    (parameters : Parameters)
    (body : String → Body) : Action ContractError Unit := do
  checkNames names
  let signature ← signature
  names.forM fun name =>
    (Action.accessor owner (member name) parameters (body name) signature).failingAs .scope

/-- The accessors of single names are single steps; all of them together are not. -/
theorem defineAccessors_eq
    (owner : ScopeId) (names : List String) (signature : Except ContractError Signature)
    (member : String → Symbol) (parameters : Parameters) (body : String → Body) :
    defineAccessors owner names signature member parameters body = (do
      checkNames names
      let signature ← signature
      names.forM fun name =>
        Action.step .scope (accessor owner (member name) parameters (body name) signature)) := by
  unfold defineAccessors
  simp only [Action.accessor_eq_step, Action.failingAs_step]

def defineReaders (owner : ScopeId) (names : List String) (behavior : Term) :
    Action ContractError Unit :=
  defineAccessors owner names (readerSignature behavior) Symbol.mk .none .reader

def defineWriters (owner : ScopeId) (names : List String) (behavior : Term) :
    Action ContractError Unit :=
  defineAccessors owner names (writerSignature behavior) (fun name => Symbol.setter ⟨name⟩)
    ⟨[⟨"value"⟩], [], none, []⟩ .writer

/-- The scope that carries accessors: the given one, or its singleton. -/
def accessorOwner (onSelf : Bool) (scope : ScopeId) : Action ContractError ScopeId := do
  (← get).requireScope scope
  if onSelf then (Action.singletonScope (.scope scope)).failingAs .scope
  else pure scope

theorem accessorOwner_eq (onSelf : Bool) (scope : ScopeId) :
    accessorOwner onSelf scope = (do
      (← get).requireScope scope
      if onSelf then Action.step .scope fun space => space.singletonScope (.scope scope)
      else pure scope) := by
  unfold accessorOwner
  rw [Action.singletonScope_eq_step, Action.failingAs_step]

def typedReader
    (onSelf : Bool)
    (scope : ScopeId)
    (names : List String)
    (behavior : Term) : Action ContractError Unit := do
  let owner ← accessorOwner onSelf scope
  defineReaders owner names behavior

def typedWriter
    (onSelf : Bool)
    (scope : ScopeId)
    (names : List String)
    (behavior : Term) : Action ContractError Unit := do
  let owner ← accessorOwner onSelf scope
  defineWriters owner names behavior

/-- Defines typed accessors; readers come before writers. -/
def typedAccessors
    (kind : AccessorKind)
    (onSelf : Bool)
    (scope : ScopeId)
    (names : List String)
    (behavior : Term) : Action ContractError Unit :=
  match kind with
  | .reader => typedReader onSelf scope names behavior
  | .writer => typedWriter onSelf scope names behavior
  | .both => do
      typedReader onSelf scope names behavior
      typedWriter onSelf scope names behavior

/-! ### Introspection -/

/-- What a call of a member would find, and the nearest contract it runs under. -/
structure MemberInfo where
  name : Symbol
  owner : ScopeId
  visibility : Visibility
  signature : Option Signature

def MemberInfo.isTyped (info : MemberInfo) : Bool :=
  info.signature.isSome

def memberInfo? (space : ObjectSpace) (receiver : Value) (name : Symbol) : Option MemberInfo :=
  (space.resolve? receiver name).map fun found =>
    ⟨name, found.member.definition.owner, found.member.definition.visibility,
      found.interceptors.findSome? fun scope => space.signature? scope name⟩

end ObjectSpace

end CallContract
