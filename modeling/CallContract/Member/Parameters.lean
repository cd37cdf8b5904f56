import CallContract.Table
import CallContract.Value.Basic

/-!
# Parameters and the binding of arguments

A member declares how many positional arguments it takes, whether further
ones are collected, and which keywords it knows.  Binding checks a list of
arguments against the declaration before anything else looks at it: first
their number, then the supplied keywords in the caller's order, then the
required keywords in the order of declaration.  Bound arguments are the
supplied ones, unchanged.
-/

namespace CallContract

structure KeywordParameter where
  name : Symbol
  isRequired : Bool
  deriving DecidableEq, Repr

structure Parameters where
  required : List Symbol
  optional : List Symbol
  rest : Option Symbol
  keywords : List KeywordParameter
  deriving DecidableEq, Repr

/-- Positional arguments and keyword arguments; a keyword occurs once. -/
structure Arguments where
  positional : List Value
  keywords : Table Symbol Value
  deriving Repr

def Parameters.none : Parameters :=
  ⟨[], [], .none, []⟩

/-- The largest number of positional arguments, if there is one. -/
def Parameters.maxPositional? (parameters : Parameters) : Option Nat :=
  match parameters.rest with
  | some _ => .none
  | .none => some (parameters.required.length + parameters.optional.length)

def Parameters.declares (parameters : Parameters) (keyword : Symbol) : Bool :=
  parameters.keywords.any fun parameter => parameter.name == keyword

def Arguments.ofLists (positional : List Value) (keywords : List (Symbol × Value)) : Arguments :=
  ⟨positional, .ofEntries keywords⟩

def Arguments.keyword? (arguments : Arguments) (name : Symbol) : Option Value :=
  arguments.keywords.get? name

inductive BindError
  | wrongArity (given : Nat) (expected : String)
  | unknownKeyword (name : Symbol)
  | missingKeyword (name : Symbol)
  deriving DecidableEq, Repr

def BindError.message : BindError → String
  | .wrongArity given expected =>
      "wrong number of arguments (given " ++ toString given ++ ", expected " ++ expected ++ ")"
  | .unknownKeyword name => "unknown keyword: " ++ name.name
  | .missingKeyword name => "missing keyword: " ++ name.name

/-- The accepted numbers of positional arguments in words. -/
def Parameters.expectedCount (parameters : Parameters) : String :=
  let least := parameters.required.length
  match parameters.maxPositional? with
  | some most => if most = least then toString least else toString least ++ ".." ++ toString most
  | .none => toString least ++ "+"

def Parameters.acceptsCount (parameters : Parameters) (given : Nat) : Bool :=
  parameters.required.length ≤ given && parameters.maxPositional?.all (given ≤ ·)

def Parameters.bind (parameters : Parameters) (arguments : Arguments) :
    Except BindError Arguments :=
  let given := arguments.positional.length
  if !parameters.acceptsCount given then
    .error (.wrongArity given parameters.expectedCount)
  else
    match arguments.keywords.find? fun keyword => !parameters.declares keyword.1 with
    | some keyword => .error (.unknownKeyword keyword.1)
    | .none =>
        match parameters.keywords.find? fun parameter =>
            parameter.isRequired && (arguments.keyword? parameter.name).isNone with
        | some parameter => .error (.missingKeyword parameter.name)
        | .none => .ok arguments

end CallContract
