import CallContract.Contract.Signature

/-!
# The registry of signatures

A registry holds the signatures of members of scopes.  Several object spaces
may share one; since each numbers its scopes by itself, every key carries the
identity of the space that the scope belongs to.
-/

namespace CallContract

structure SpaceId where
  number : Nat
  deriving DecidableEq, Repr

structure ContractKey where
  space : SpaceId
  scope : ScopeId
  member : Symbol
  deriving DecidableEq, Repr

abbrev Registry : Type :=
  Table ContractKey Signature

namespace Registry

def signature? (registry : Registry) (key : ContractKey) : Option Signature :=
  Table.get? registry key

def contains (registry : Registry) (key : ContractKey) : Bool :=
  Table.contains registry key

/-- Publishes a signature in place of the previous one. -/
def register (registry : Registry) (key : ContractKey) (signature : Signature) : Registry :=
  Table.put registry key signature

/-- The members of a scope that have a signature, sorted by name. -/
def membersOf (registry : Registry) (space : SpaceId) (scope : ScopeId) : List Symbol :=
  ((Table.keys registry).filter fun key => key.space == space && key.scope == scope).map (·.member)
    |>.mergeSort fun a b => a.name ≤ b.name

end Registry

end CallContract
