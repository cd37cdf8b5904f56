import CallContract.Contract.Slot
import CallContract.Member.Parameters
import CallContract.Member.Visibility
import CallContract.Scope.Table

/-!
# How a call can fail

A call fails because no member is found or reached, because its arguments
cannot be bound, because calls are nested too deeply, because a contract is
violated on either side, or because the body of the member fails.
-/

namespace CallContract

/-- An argument that does not match the descriptor of its slot. -/
structure ArgumentViolation where
  owner : String
  member : Symbol
  slot : Slot
  expected : String
  actual : String
  deriving DecidableEq, Repr

/-- A result that does not match the descriptor of the result. -/
structure ResultViolation where
  owner : String
  member : Symbol
  expected : String
  actual : String
  deriving DecidableEq, Repr

def ArgumentViolation.message (violation : ArgumentViolation) : String :=
  violation.owner ++ "#" ++ violation.member.name ++ " for " ++ violation.slot.text ++
    ": expected " ++ violation.actual ++ " to match " ++ violation.expected

def ResultViolation.message (violation : ResultViolation) : String :=
  violation.owner ++ "#" ++ violation.member.name ++ " for " ++ Slot.result.text ++
    ": expected " ++ violation.actual ++ " to match " ++ violation.expected

inductive CallError
  | noMethod (member : Symbol) (receiver : String)
  | inaccessible (member : Symbol) (visibility : Visibility) (receiver : String)
  | binding (member : Symbol) (error : BindError)
  | argumentType (violation : ArgumentViolation)
  | resultType (violation : ResultViolation)
  | depthExceeded (limit : Nat)
  | raised (message : String)
  | scope (error : ScopeError)
  deriving DecidableEq, Repr

namespace CallError

def message : CallError → String
  | .noMethod member receiver => "undefined method '" ++ member.name ++ "' for " ++ receiver
  | .inaccessible member visibility receiver =>
      visibility.text ++ " method '" ++ member.name ++ "' called for " ++ receiver
  | .binding member error => member.name ++ ": " ++ error.message
  | .argumentType violation => violation.message
  | .resultType violation => violation.message
  | .depthExceeded limit => "stack level too deep (limit " ++ toString limit ++ ")"
  | .raised message => message
  | .scope error => error.message

/-- Whether the member was not found or not reached. -/
def isNoMethod : CallError → Bool
  | .noMethod _ _ | .inaccessible _ _ _ => true
  | _ => false

def isArgumentType : CallError → Bool
  | .argumentType _ => true
  | _ => false

def isResultType : CallError → Bool
  | .resultType _ => true
  | _ => false

end CallError

end CallContract
