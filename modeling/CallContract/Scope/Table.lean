import CallContract.Symbol
import CallContract.Table

/-!
# The table of scopes

Classes, modules and singletons are scopes.  A table lists them in the order
in which they were made, and a scope is known by its position.  Classes and
modules are also listed under their names; a singleton belongs to one object or
one scope, under which it is listed, and is made when it is first needed.
-/

namespace CallContract

inductive ScopeKind
  | classScope
  | moduleScope
  | singleton (attached : Attachment)
  deriving DecidableEq, Repr

structure ScopeDefinition where
  id : ScopeId
  name : String
  kind : ScopeKind
  superclass : Option ScopeId
  includes : List ScopeId
  deriving DecidableEq, Repr

def ScopeKind.isSingleton : ScopeKind → Bool
  | .singleton _ => true
  | _ => false

inductive ScopeError
  | duplicateName (name : String)
  | unknownScope (id : ScopeId)
  | superclassNotClass (name : String)
  | notModule (name : String)
  | notClass (name : String)
  | noSingleton (typeName : String)
  deriving DecidableEq, Repr

def ScopeError.message : ScopeError → String
  | .duplicateName name => "duplicate scope name: '" ++ name ++ "'"
  | .unknownScope id => "scope not found: ScopeId(" ++ toString id.index ++ ")"
  | .superclassNotClass name => "superclass must be a class: '" ++ name ++ "'"
  | .notModule name => "'" ++ name ++ "' is not a module"
  | .notClass name => "'" ++ name ++ "' is not a class"
  | .noSingleton typeName => "can't define singleton for " ++ typeName

namespace ScopeId

def basicObject : ScopeId := ⟨0⟩

def object : ScopeId := ⟨1⟩

def moduleClass : ScopeId := ⟨2⟩

def classClass : ScopeId := ⟨3⟩

def kernel : ScopeId := ⟨4⟩

def comparable : ScopeId := ⟨5⟩

def boolean : ScopeId := ⟨6⟩

def numeric : ScopeId := ⟨7⟩

def integer : ScopeId := ⟨8⟩

def float : ScopeId := ⟨9⟩

def string : ScopeId := ⟨10⟩

def symbol : ScopeId := ⟨11⟩

def array : ScopeId := ⟨12⟩

def hash : ScopeId := ⟨13⟩

def nilClass : ScopeId := ⟨14⟩

def trueClass : ScopeId := ⟨15⟩

def falseClass : ScopeId := ⟨16⟩

end ScopeId

/-- Lists a module once, behind those included before it. -/
def ScopeDefinition.including
    (definition : ScopeDefinition)
    (included : ScopeId) : ScopeDefinition :=
  if included ∈ definition.includes then definition
  else { definition with includes := definition.includes ++ [included] }

structure ScopeTable where
  definitions : Array ScopeDefinition
  /-- The classes and modules by their names. -/
  names : Table String ScopeId
  singletons : Table Attachment ScopeId
  deriving Repr

namespace ScopeTable

def size (table : ScopeTable) : Nat :=
  table.definitions.size

def get? (table : ScopeTable) (id : ScopeId) : Option ScopeDefinition :=
  table.definitions[id.index]?

def find (table : ScopeTable) (id : ScopeId) : Except ScopeError ScopeDefinition :=
  match table.get? id with
  | some definition => .ok definition
  | none => .error (.unknownScope id)

/-- The name of a scope, `?` if there is none. -/
def name (table : ScopeTable) (id : ScopeId) : String :=
  match table.get? id with
  | some definition => definition.name
  | none => "?"

/-- The class or module of a name. -/
def named? (table : ScopeTable) (name : String) : Option ScopeId :=
  table.names.get? name

/-- The singleton of an attachment, if it has been made. -/
def existingSingleton? (table : ScopeTable) (attached : Attachment) : Option ScopeId :=
  table.singletons.get? attached

/-- The scope that a scope is the singleton of. -/
def attachedScope? (table : ScopeTable) (id : ScopeId) : Option ScopeId :=
  match table.get? id with
  | some definition =>
      match definition.kind with
      | .singleton (.scope attached) => some attached
      | _ => none
  | none => none

/-- Adds a scope at the next position, under its name or under what it is the
singleton of. -/
def push
    (table : ScopeTable)
    (name : String)
    (kind : ScopeKind)
    (superclass : Option ScopeId)
    (includes : List ScopeId) : ScopeId × ScopeTable :=
  let id : ScopeId := ⟨table.size⟩
  let made : ScopeTable :=
    { definitions := table.definitions.push ⟨id, name, kind, superclass, includes⟩
      names := if kind.isSingleton then table.names else table.names.put name id
      singletons :=
        match kind with
        | .singleton attached => table.singletons.put attached id
        | _ => table.singletons }
  (id, made)

/-- Puts a definition in the place of a scope that is there. -/
def update
    (table : ScopeTable)
    (id : ScopeId)
    (definition : ScopeDefinition) : ScopeTable :=
  { table with definitions := table.definitions.setIfInBounds id.index definition }

def empty : ScopeTable :=
  ⟨#[], [], []⟩

/-- The scopes that every table starts with, in the order of their positions. -/
def builtinScopes : List (String × ScopeKind × Option ScopeId × List ScopeId) :=
  [("BasicObject", .classScope, none, []),
    ("Object", .classScope, some .basicObject, [.kernel]),
    ("Module", .classScope, some .object, []),
    ("Class", .classScope, some .moduleClass, []),
    ("Kernel", .moduleScope, none, []),
    ("Comparable", .moduleScope, none, []),
    ("Boolean", .moduleScope, none, []),
    ("Numeric", .classScope, some .object, [.comparable]),
    ("Integer", .classScope, some .numeric, []),
    ("Float", .classScope, some .numeric, []),
    ("String", .classScope, some .object, [.comparable]),
    ("Symbol", .classScope, some .object, []),
    ("Array", .classScope, some .object, []),
    ("Hash", .classScope, some .object, []),
    ("NilClass", .classScope, some .object, []),
    ("TrueClass", .classScope, some .object, [.boolean]),
    ("FalseClass", .classScope, some .object, [.boolean])]

def initial : ScopeTable :=
  builtinScopes.foldl
    (fun table scope => (table.push scope.1 scope.2.1 scope.2.2.1 scope.2.2.2).2) empty

/-- The name of a singleton that is yet to be made. -/
def singletonName (table : ScopeTable) : Attachment → Except ScopeError String
  | .scope id => do
      let definition ← table.find id
      pure ("#<Class:" ++ definition.name ++ ">")
  | .object id => .ok ("#<Class:#<Object:" ++ toString id.number ++ ">>")

end ScopeTable

end CallContract
