import CallContract.Contract.Descriptor

/-!
# Matching values against descriptors

Matching asks its surroundings which scopes a value is an instance of, which
members it answers, and which text it has.  Tuples are followed to a bounded
depth; a tuple beyond the bound matches nothing.
-/

namespace CallContract

/-- What matching asks about a value. -/
structure TypeEnvironment where
  isInstanceOf : Value → ScopeId → Bool
  respondsTo : Value → Symbol → Bool
  text? : Value → Option String

/-- The depth to which tuples are followed where nothing else is configured. -/
def defaultMatchDepth : Nat :=
  32

namespace Descriptor

mutual

def accepts (environment : TypeEnvironment) (depth : Nat) : Descriptor → Value → Bool
  | .instanceOf type, value => environment.isInstanceOf value type.id
  | .respondsTo member, value => environment.respondsTo value member
  | .textMatches pattern, value => (environment.text? value).any pattern.occursIn
  | .within interval, value => interval.contains value
  | .tuple items, value =>
      match depth, value with
      | depth + 1, .array elements => acceptsAll environment depth items elements
      | _, _ => false
  | .passes predicate, value => predicate.passes value
  | .truthy, value => value.truthy
  | .falsy, value => !value.truthy
  | .absent, value => value.isNil
  | .anything, _ => true

/-- Whether the elements are matched one by one and none is left over. -/
def acceptsAll (environment : TypeEnvironment) (depth : Nat) :
    List Descriptor → List Value → Bool
  | [], [] => true
  | item :: items, element :: elements =>
      item.accepts environment depth element && acceptsAll environment depth items elements
  | _, _ => false

end

end Descriptor

end CallContract
