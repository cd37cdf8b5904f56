import CallContract.ObjectSpace.Outcome
import CallContract.ObjectSpace.Settings

/-!
# Bodies of members and operations

A body is a built-in operation, an accessor of an instance variable, or a
program.  A program alternates between its own computation, which may be any
function, and steps: it looks at its object space, calls a member, or performs
an operation, and what it does next depends on the outcome.  A failed step
does not end a program by itself.

Operations are everything that can happen to an object space from outside, and
programs may perform every one of them.
-/

namespace CallContract

/-- A call that went through contract checks. -/
structure TraceEntry where
  scope : ScopeId
  member : Symbol
  arguments : Arguments
  returned : Option Value
  error : Option String
  deriving Repr

/-- What a program can see of its object space.  Of a registry that several
spaces share it sees the contracts of its own space. -/
structure Observation where
  settings : Settings
  scopes : ScopeTable
  definition? : ScopeId → Symbol → Option MemberDefinition
  readVariable : Value → String → Value
  layer? : ScopeId → Option (List Symbol)
  signature? : ScopeId → Symbol → Option Signature
  contracted : ScopeId → List Symbol
  isAnnotated : ScopeId → Bool
  trace : List TraceEntry

/-- The invocation that a body runs for. -/
structure Frame where
  receiver : Value
  member : Symbol
  arguments : Arguments
  depth : Nat
  deriving Repr

namespace Frame

/-- A positional argument, `nil` if it was not supplied. -/
def argument (frame : Frame) (index : Nat) : Value :=
  frame.arguments.positional[index]?.getD .nil

def keyword (frame : Frame) (name : Symbol) : Value :=
  (frame.arguments.keyword? name).getD .nil

/-- A positional argument that has to be an integer. -/
def integer (frame : Frame) (index : Nat) : Except CallError Int64 :=
  match frame.arguments.positional[index]? with
  | some (.int number) => .ok number
  | other =>
      .error (.raised (frame.member.name ++ ": " ++ ordinal (index + 1) ++
        " argument is not an Integer (" ++ (other.map Value.typeName).getD "missing" ++ ")"))

end Frame

/-- The operations of the members that every object space starts with. -/
inductive Builtin
  | itself
  | textOf
  | describe
  | isNil
  | classOf
  | isEqual
  | respondsTo
  | add
  | integerToFloat
  | isOdd
  | isEven
  | integerIsZero
  | successor
  | integerMagnitude
  | floatToInteger
  | floatIsZero
  | floatMagnitude
  | stringToInteger
  | stringToFloat
  | stringToSymbol
  | stringLength
  | uppercase
  | concatenate
  | symbolLength
  | arrayLength
  | arrayIsEmpty
  | firstItem
  | lastItem
  | hashLength
  | hashKeys
  | zeroInteger
  | zeroFloat
  | emptyArray
  deriving DecidableEq, Repr

inductive ObjectSpace.AccessorKind
  | reader
  | writer
  | both
  deriving DecidableEq, Repr

mutual

inductive Program
  | finish (outcome : Except CallError Value)
  | observe (next : Observation → Program)
  | call (receiver : Value) (member : Symbol) (arguments : Arguments)
      (next : Except CallError Value → Program)
  | send (member : Symbol) (arguments : Arguments) (next : Except CallError Value → Program)
  | perform (operation : Operation) (next : Except Failure Response → Program)

inductive Body
  | builtin (operation : Builtin)
  | reader (name : String)
  | writer (name : String)
  | script (program : Frame → Program)

inductive Operation
  | defineClass (name : String) (superclass : Option ScopeId)
  | defineModule (name : String)
  | includeModule (scope included : ScopeId)
  | newObject (ofClass : ScopeId)
  | singleton (receiver : Value)
  | defineMember (scope : ScopeId) (name : Symbol) (visibility : Visibility)
      (parameters : Parameters) (body : Body)
  | setVisibility (scope : ScopeId) (name : Symbol) (visibility : Visibility)
  | writeVariable (receiver : Value) (name : String) (value : Value)
  | register (scope : ScopeId) (member : Symbol) (term : Term)
  | contract (scope : ScopeId) (member : Symbol) (term : Term)
  | contractSelf (scope : ScopeId) (member : Symbol) (term : Term)
  | contractOn (receiver : Value) (member : Symbol) (term : Term)
  | annotate (receiver : Value) (term : Term)
  | typedAccessors (kind : ObjectSpace.AccessorKind) (onSelf : Bool) (scope : ScopeId)
      (names : List String) (behavior : Term)
  | call (receiver : Value) (member : Symbol) (arguments : Arguments)
  | send (receiver : Value) (member : Symbol) (arguments : Arguments)
  | clearTrace

end

structure Member where
  definition : MemberDefinition
  body : Body

namespace Program

/-- A property of programs follows them through every outcome of every step. -/
@[elab_as_elim, induction_eliminator]
theorem induction
    {motive : Program → Prop}
    (finish : ∀ outcome, motive (.finish outcome))
    (observe : ∀ next, (∀ seen, motive (next seen)) → motive (.observe next))
    (call : ∀ receiver member arguments next,
      (∀ outcome, motive (next outcome)) → motive (.call receiver member arguments next))
    (send : ∀ member arguments next,
      (∀ outcome, motive (next outcome)) → motive (.send member arguments next))
    (perform : ∀ operation next,
      (∀ outcome, motive (next outcome)) → motive (.perform operation next)) :
    ∀ program, motive program
  | .finish outcome => finish outcome
  | .observe next =>
      observe next fun seen => induction finish observe call send perform (next seen)
  | .call receiver member arguments next =>
      call receiver member arguments next fun outcome =>
        induction finish observe call send perform (next outcome)
  | .send member arguments next =>
      send member arguments next fun outcome =>
        induction finish observe call send perform (next outcome)
  | .perform operation next =>
      perform operation next fun outcome =>
        induction finish observe call send perform (next outcome)

def give (value : Value) : Program :=
  .finish (.ok value)

end Program

end CallContract
