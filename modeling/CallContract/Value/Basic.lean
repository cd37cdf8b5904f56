import CallContract.Binary64.Basic
import CallContract.Symbol

/-!
# Values

Arguments and results are dynamic values.  `nil` also stands for an absent
result: a member that produces nothing produces `nil`.  A hash keeps its
pairs in the order in which they were given and may repeat a key.
-/

namespace CallContract

inductive Value
  | nil
  | bool (truth : Bool)
  | int (number : Int64)
  | float (number : Binary64)
  | text (content : String)
  | symbol (name : Symbol)
  | array (items : List Value)
  | hash (pairs : List (Value × Value))
  | object (reference : ObjectRef)
  | scope (id : ScopeId)
  deriving Repr

namespace Value

def isNil : Value → Bool
  | .nil => true
  | _ => false

/-- Only `nil` and `false` are not true. -/
def truthy : Value → Bool
  | .nil | .bool false => false
  | _ => true

def typeName : Value → String
  | .nil => "NilClass"
  | .bool true => "TrueClass"
  | .bool false => "FalseClass"
  | .int _ => "Integer"
  | .float _ => "Float"
  | .text _ => "String"
  | .symbol _ => "Symbol"
  | .array _ => "Array"
  | .hash _ => "Hash"
  | .object _ => "Object"
  | .scope _ => "Scope"

def int? : Value → Option Int64
  | .int number => some number
  | _ => none

def text? : Value → Option String
  | .text content => some content
  | _ => none

/-- The carrier of instance variables and of singleton members, if the value
can have them. -/
def attachment? : Value → Option Attachment
  | .object reference => some (.object reference.id)
  | .scope id => some (.scope id)
  | _ => none

mutual

/-- Equality of values of one kind.  Floats are equal as numbers, so a value
that holds the number `nan` is not equal to itself. -/
def equal : Value → Value → Bool
  | .nil, .nil => true
  | .bool a, .bool b => a == b
  | .int a, .int b => a == b
  | .float a, .float b => a.equal b
  | .text a, .text b => a == b
  | .symbol a, .symbol b => a == b
  | .array a, .array b => equalItems a b
  | .hash a, .hash b => equalPairs a b
  | .object a, .object b => a == b
  | .scope a, .scope b => a == b
  | _, _ => false

def equalItems : List Value → List Value → Bool
  | [], [] => true
  | a :: restA, b :: restB => a.equal b && equalItems restA restB
  | _, _ => false

def equalPairs : List (Value × Value) → List (Value × Value) → Bool
  | [], [] => true
  | (keyA, a) :: restA, (keyB, b) :: restB =>
      keyA.equal keyB && a.equal b && equalPairs restA restB
  | _, _ => false

end

end Value

end CallContract
