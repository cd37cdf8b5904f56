import CallContract.Contract.Registry
import CallContract.ObjectSpace.Program
import CallContract.Scope.Ancestry
import CallContract.Scope.Edit

/-!
# The state of an object space

An object space has scopes with members, instance variables of objects and
scopes, layers that say which members of a scope are checked, the registry of
the signatures they are checked by, annotations that wait for the next member
of their scope, and a trace of checked calls.  A record of the contracts that were
put in force goes with the state, for what is said about it only.
-/

namespace CallContract

structure MemberKey where
  scope : ScopeId
  name : Symbol
  deriving DecidableEq, Repr

structure VariableKey where
  holder : Attachment
  name : String
  deriving DecidableEq, Repr

/-- A contract that was put in force. -/
structure Registration where
  scope : ScopeId
  member : Symbol
  signature : Signature

structure ObjectSpace where
  id : SpaceId
  settings : Settings
  scopes : ScopeTable
  members : Table MemberKey Member
  layers : Table ScopeId (List Symbol)
  registry : Registry
  variableValues : Table VariableKey Value
  nextObject : ObjectId
  pending : Table ScopeId Signature
  trace : List TraceEntry
  /-- Every contract that was put in force, the latest last.  The program keeps no such
  record and no operation reads it: statements about layers and the registry refer to
  it. -/
  registrations : List Registration

namespace ObjectSpace

def scopeName (space : ObjectSpace) (id : ScopeId) : String :=
  space.scopes.name id

def describe (space : ObjectSpace) (value : Value) : String :=
  value.describe space.scopeName

def searchText? (space : ObjectSpace) (value : Value) : Option String :=
  value.searchText? space.scopeName

def ensureScope (space : ObjectSpace) (id : ScopeId) : Except ScopeError Unit := do
  let _ ← space.scopes.find id
  pure ()

/-! ### Scopes and objects -/

def defineClass
    (space : ObjectSpace)
    (name : String)
    (superclass : Option ScopeId) : Except ScopeError (ScopeId × ObjectSpace) := do
  let (id, scopes) ← space.scopes.defineClass name superclass
  pure (id, { space with scopes := scopes })

def defineModule
    (space : ObjectSpace)
    (name : String) : Except ScopeError (ScopeId × ObjectSpace) := do
  let (id, scopes) ← space.scopes.defineModule name
  pure (id, { space with scopes := scopes })

def includeModule
    (space : ObjectSpace)
    (scope included : ScopeId) : Except ScopeError ObjectSpace := do
  let scopes ← space.scopes.includeModule scope included
  pure { space with scopes := scopes }

/-- Makes an object of a class; modules and singletons have no objects. -/
def newObject
    (space : ObjectSpace)
    (ofClass : ScopeId) : Except ScopeError (Value × ObjectSpace) := do
  let definition ← space.scopes.find ofClass
  if definition.kind = .classScope then
    pure (.object ⟨space.nextObject, ofClass⟩,
      { space with nextObject := ⟨space.nextObject.number + 1⟩ })
  else .error (.notClass definition.name)

/-- The singleton of a value, made on first use. -/
def singletonScope
    (space : ObjectSpace)
    (receiver : Value) : Except ScopeError (ScopeId × ObjectSpace) :=
  match receiver.attachment? with
  | none => .error (.noSingleton receiver.typeName)
  | some attached => do
      let (id, scopes) ← space.scopes.singletonOf attached
      pure (id, { space with scopes := scopes })

/-! ### Instance variables -/

def readVariable (space : ObjectSpace) (receiver : Value) (name : String) : Value :=
  match receiver.attachment? with
  | some holder => (space.variableValues.get? ⟨holder, name⟩).getD .nil
  | none => .nil

def writeVariable
    (space : ObjectSpace)
    (receiver : Value)
    (name : String)
    (value : Value) : Except CallError ObjectSpace :=
  match receiver.attachment? with
  | some holder =>
      .ok { space with variableValues := space.variableValues.put ⟨holder, name⟩ value }
  | none => .error (.raised ("can't modify frozen " ++ receiver.typeName))

/-! ### Members -/

def ownMember? (space : ObjectSpace) (scope : ScopeId) (name : Symbol) : Option Member :=
  space.members.get? ⟨scope, name⟩

def layerOf (space : ObjectSpace) (scope : ScopeId) : List Symbol :=
  (space.layers.get? scope).getD []

def intercepts (space : ObjectSpace) (scope : ScopeId) (name : Symbol) : Bool :=
  (space.layerOf scope).contains name

/-- The member that a search finds, and the scopes up to its owner that check it. -/
structure Resolution where
  member : Member
  interceptors : List ScopeId

def resolveAlong (space : ObjectSpace) (name : Symbol) : List ScopeId → Option Resolution
  | [] => none
  | scope :: rest =>
      let here := if space.intercepts scope name then [scope] else []
      match space.ownMember? scope name with
      | some member => some ⟨member, here⟩
      | none =>
          (resolveAlong space name rest).map fun found =>
            { found with interceptors := here ++ found.interceptors }

def resolve? (space : ObjectSpace) (receiver : Value) (name : Symbol) : Option Resolution :=
  space.resolveAlong name (space.scopes.lookupChain receiver)

/-- Whether instances of a scope have a member, whatever its visibility. -/
def definesMember (space : ObjectSpace) (scope : ScopeId) (name : Symbol) : Bool :=
  (space.scopes.ancestors scope).any fun ancestor => (space.ownMember? ancestor name).isSome

/-- Whether a value answers a member publicly. -/
def respondsTo (space : ObjectSpace) (receiver : Value) (name : Symbol) : Bool :=
  (space.resolve? receiver name).any fun found =>
    found.member.definition.visibility == .publicAccess

def insertMember (space : ObjectSpace) (member : Member) : ObjectSpace :=
  { space with
    members :=
      space.members.put ⟨member.definition.owner, member.definition.name⟩ member }

def setVisibility
    (space : ObjectSpace)
    (scope : ScopeId)
    (name : Symbol)
    (visibility : Visibility) : Except CallError ObjectSpace :=
  match space.ownMember? scope name with
  | none => .error (.noMethod name (space.scopeName scope))
  | some member =>
      .ok { space with
        members := space.members.put ⟨scope, name⟩
          { member with definition := { member.definition with visibility := visibility } } }

/-! ### Contracts -/

def signature? (space : ObjectSpace) (scope : ScopeId) (member : Symbol) : Option Signature :=
  space.registry.signature? ⟨space.id, scope, member⟩

/-- Whether a member of a scope is under contract. -/
def isChecked (space : ObjectSpace) (scope : ScopeId) (member : Symbol) : Bool :=
  space.registry.contains ⟨space.id, scope, member⟩

/-- The layers with a member listed on a scope; no member is listed twice. -/
def layersListing
    (space : ObjectSpace)
    (scope : ScopeId)
    (member : Symbol) : Table ScopeId (List Symbol) :=
  if space.intercepts scope member then space.layers
  else space.layers.put scope (space.layerOf scope ++ [member])

/-- Puts a member of a scope under a contract, in place of an earlier one, and
reports it. -/
def registerSignature
    (space : ObjectSpace)
    (scope : ScopeId)
    (member : Symbol)
    (signature : Signature) : ObjectSpace :=
  { space with
    layers := space.layersListing scope member
    registry := space.registry.register ⟨space.id, scope, member⟩ signature
    registrations := space.registrations ++ [⟨scope, member, signature⟩] }

/-- The annotation that a definition on a scope consumes, and where it waits:
on the scope itself, or on the one that it is the singleton of. -/
def waiting? (space : ObjectSpace) (scope : ScopeId) : Option (ScopeId × Signature) :=
  match space.pending.get? scope with
  | some signature => some (scope, signature)
  | none =>
      (space.scopes.attachedScope? scope).bind fun attached =>
        (space.pending.get? attached).map fun signature => (attached, signature)

/-- Registers a waiting annotation for a member that has been defined. -/
def consumePending (space : ObjectSpace) (scope : ScopeId) (member : Symbol) : ObjectSpace :=
  match space.waiting? scope with
  | none => space
  | some (annotated, signature) =>
      { space with pending := space.pending.erase annotated }.registerSignature
        scope member signature

/-- Defines a member on a scope, or replaces it, and consumes an annotation. -/
def defineMember
    (space : ObjectSpace)
    (scope : ScopeId)
    (name : Symbol)
    (visibility : Visibility)
    (parameters : Parameters)
    (body : Body) : Except ScopeError (MemberDefinition × ObjectSpace) := do
  space.ensureScope scope
  let definition : MemberDefinition := ⟨name, scope, visibility, parameters⟩
  pure (definition, (space.insertMember ⟨definition, body⟩).consumePending scope name)

/-! ### Matching and tracing -/

def environment (space : ObjectSpace) : TypeEnvironment where
  isInstanceOf := space.scopes.isInstanceOf
  respondsTo := space.respondsTo
  text? := space.searchText?

/-- Whether a value matches a descriptor, to the depth of the settings. -/
def accepts (space : ObjectSpace) (descriptor : Descriptor) (value : Value) : Bool :=
  descriptor.accepts space.environment space.settings.maxMatchDepth value

/-- Keeps the most recent entries, as many as the settings say. -/
def recordCall (space : ObjectSpace) (entry : TraceEntry) : ObjectSpace :=
  let entries := space.trace ++ [entry]
  { space with trace := entries.drop (entries.length - space.settings.traceCapacity) }

def clearTrace (space : ObjectSpace) : ObjectSpace :=
  { space with trace := [] }

def observe (space : ObjectSpace) : Observation where
  settings := space.settings
  scopes := space.scopes
  definition? scope name := (space.ownMember? scope name).map (·.definition)
  readVariable := space.readVariable
  layer? := space.layers.get?
  signature? := space.signature?
  contracted := space.registry.membersOf space.id
  isAnnotated := space.pending.contains
  trace := space.trace

end ObjectSpace

end CallContract
