import CallContract.Contract.Compilation
import CallContract.ObjectSpace.CallError

/-!
# What operations give back

An operation on an object space gives back a response, or it fails because of
a scope, a call, a signature, or a contract that cannot be put in force.  Apart
from these, a call from outside may be cut off: how deeply such calls may be
inside each other is not limited by anything in an object space, so those that
never came back are given up at a bound of this library.
-/

namespace CallContract

structure MemberDefinition where
  name : Symbol
  owner : ScopeId
  visibility : Visibility
  parameters : Parameters
  deriving DecidableEq, Repr

inductive ContractError
  | signature (error : SignatureError)
  | missingName
  | unknownScope (id : ScopeId)
  | notAScope (receiver : String)
  | scope (error : ScopeError)
  deriving DecidableEq, Repr

def ContractError.message : ContractError → String
  | .signature error => error.message
  | .missingName => "names contain an empty name"
  | .unknownScope id => "unknown scope: ScopeId(" ++ toString id.index ++ ")"
  | .notAScope receiver => receiver ++ " is not a class or module"
  | .scope error => error.message

/-- What an operation that succeeds gives back. -/
inductive Response
  | done
  | value (value : Value)
  | scope (id : ScopeId)
  | member (definition : MemberDefinition)
  | signature (signature : Signature)

/-- Why an operation failed.  An operation that was cut off did not fail by itself;
no call ends so, as this is none of the errors of calls. -/
inductive Failure
  | scope (error : ScopeError)
  | call (error : CallError)
  | signature (error : SignatureError)
  | contract (error : ContractError)
  | cutOff

end CallContract
