import CallContract.Contract.Interval
import CallContract.Contract.Predicate
import CallContract.Pattern.Basic

/-!
# Descriptors

A descriptor says what one argument or one result has to be like.  A tuple
describes the elements of an array one by one; `absent` is the descriptor of a
result that is not there.
-/

namespace CallContract

/-- A class or module that was looked up, with the name it had. -/
structure TypeRef where
  id : ScopeId
  name : String
  deriving DecidableEq, Repr

inductive Descriptor
  | instanceOf (type : TypeRef)
  | respondsTo (member : Symbol)
  | textMatches (pattern : Pattern)
  | within (interval : Interval)
  | tuple (items : List Descriptor)
  | passes (predicate : Predicate)
  | truthy
  | falsy
  | absent
  | anything

namespace Descriptor

def isAnything : Descriptor → Bool
  | .anything => true
  | _ => false

mutual

def text : Descriptor → String
  | .instanceOf type => type.name
  | .respondsTo member => member.literal
  | .textMatches pattern => "/" ++ pattern.source ++ "/"
  | .within interval => interval.text
  | .tuple items => "[" ++ Text.commaSeparated (texts items) ++ "]"
  | .passes predicate => predicate.text
  | .truthy => "true"
  | .falsy => "false"
  | .absent => "nil"
  | .anything => "Any"

def texts : List Descriptor → List String
  | [] => []
  | item :: rest => item.text :: texts rest

end

mutual

/-- Equality of descriptors: patterns by their source, predicates by their
identity, and bounds as values. -/
def equal : Descriptor → Descriptor → Bool
  | .instanceOf a, .instanceOf b => a == b
  | .respondsTo a, .respondsTo b => a == b
  | .textMatches a, .textMatches b => a.source == b.source
  | .within a, .within b => a.equal b
  | .tuple a, .tuple b => equalItems a b
  | .passes a, .passes b => a.same b
  | .truthy, .truthy => true
  | .falsy, .falsy => true
  | .absent, .absent => true
  | .anything, .anything => true
  | _, _ => false

def equalItems : List Descriptor → List Descriptor → Bool
  | [], [] => true
  | a :: restA, b :: restB => a.equal b && equalItems restA restB
  | _, _ => false

end

end Descriptor

end CallContract
