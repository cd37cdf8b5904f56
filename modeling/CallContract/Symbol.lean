/-!
# Symbols and identities

A symbol names a member or a keyword, so that a keyword slot is never
addressed by arbitrary text.  Scopes and objects are known by numbers of
their own kinds.
-/

namespace CallContract

structure Symbol where
  name : String
  deriving DecidableEq, Repr, Hashable

/-- The member that writes the attribute which `symbol` reads. -/
def Symbol.setter (symbol : Symbol) : Symbol :=
  ⟨symbol.name ++ "="⟩

def Symbol.literal (symbol : Symbol) : String :=
  ":" ++ symbol.name

/-- The position of a class, a module or a singleton in the table of scopes. -/
structure ScopeId where
  index : Nat
  deriving DecidableEq, Repr, Hashable

structure ObjectId where
  number : Nat
  deriving DecidableEq, Repr, Hashable

/-- An object known by its identity, together with the class it was made from. -/
structure ObjectRef where
  id : ObjectId
  ofClass : ScopeId
  deriving DecidableEq, Repr

/-- What can have state and members of its own: an object, or a scope used as
a value. -/
inductive Attachment
  | object (id : ObjectId)
  | scope (id : ScopeId)
  deriving DecidableEq, Repr

end CallContract
