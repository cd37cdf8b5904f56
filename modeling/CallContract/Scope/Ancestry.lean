import CallContract.Scope.Table
import CallContract.Value.Basic

/-!
# Ancestors and subtypes

The ancestors of a scope are the scope itself, the modules that it includes,
most recently included first and each followed by its own modules, and then
the same for every superclass.  A module is listed where it is met first.
Modules may include each other in circles; each step inwards lists a module
that was not listed before, so as many steps as there are scopes suffice.
-/

namespace CallContract.ScopeTable

def includesOf (table : ScopeTable) (id : ScopeId) : List ScopeId :=
  match table.get? id with
  | some definition => definition.includes
  | none => []

def superclassOf? (table : ScopeTable) (id : ScopeId) : Option ScopeId :=
  (table.get? id).bind (·.superclass)

/-- The superclasses from `start` on, at most `steps` of them. -/
def superclassesFrom (table : ScopeTable) : Nat → Option ScopeId → List ScopeId
  | 0, _ => []
  | _, none => []
  | steps + 1, some id =>
      match table.get? id with
      | none => []
      | some definition => id :: table.superclassesFrom steps definition.superclass

/-- A class followed by its superclasses.  A superclass is made before its
subclasses, so the chain is no longer than the table. -/
def superclassChain (table : ScopeTable) (scope : ScopeId) : List ScopeId :=
  table.superclassesFrom table.size (some scope)

/-- Lists a module, and the modules that it includes, behind those listed. -/
def addModule (table : ScopeTable) : Nat → List ScopeId → ScopeId → List ScopeId
  | 0, listed, _ => listed
  | steps + 1, listed, id =>
      if id ∈ listed then listed
      else (table.includesOf id).reverse.foldl (table.addModule steps) (listed ++ [id])

/-- Lists a scope and the modules that it includes behind the scopes listed. -/
def addScope (table : ScopeTable) (listed : List ScopeId) (id : ScopeId) : List ScopeId :=
  (table.includesOf id).reverse.foldl (table.addModule (table.size + 1)) (listed ++ [id])

def ancestors (table : ScopeTable) (scope : ScopeId) : List ScopeId :=
  (table.superclassChain scope).foldl table.addScope []

def isSubtype (table : ScopeTable) (sub super : ScopeId) : Bool :=
  sub == super || (table.ancestors sub).contains super

/-- The class of a value; scopes are values of the classes of scopes. -/
def classOf (table : ScopeTable) : Value → ScopeId
  | .nil => .nilClass
  | .bool true => .trueClass
  | .bool false => .falseClass
  | .int _ => .integer
  | .float _ => .float
  | .text _ => .string
  | .symbol _ => .symbol
  | .array _ => .array
  | .hash _ => .hash
  | .object reference => reference.ofClass
  | .scope id =>
      if (table.get? id).any fun definition => definition.kind == .classScope then
        .classClass
      else .moduleClass

/-- The singletons that a value takes members from, nearest first: its own,
and for a class those of its superclasses. -/
def singletonsOf (table : ScopeTable) : Value → List ScopeId
  | .object reference => (table.existingSingleton? (.object reference.id)).toList
  | .scope id =>
      (table.superclassChain id).filterMap fun ancestor =>
        table.existingSingleton? (.scope ancestor)
  | _ => []

/-- The scopes that are searched for a member of a value, nearest first. -/
def lookupChain (table : ScopeTable) (receiver : Value) : List ScopeId :=
  table.singletonsOf receiver ++ table.ancestors (table.classOf receiver)

def isInstanceOf (table : ScopeTable) (value : Value) (scope : ScopeId) : Bool :=
  (table.singletonsOf value).contains scope || table.isSubtype (table.classOf value) scope

end CallContract.ScopeTable
