import CallContract.Value.Order

/-!
# Predicates

A predicate is a check of one value with a label.  It may end in a fault or
not end properly at all, which nobody but the check itself notices: the value
then does not pass.  Predicates are told apart by their identity, not by what
they compute.
-/

namespace CallContract

inductive PredicateOutcome
  | answer (holds : Bool)
  | fault (message : String)
  | aborted
  deriving DecidableEq, Repr

def PredicateOutcome.passes : PredicateOutcome → Bool
  | .answer holds => holds
  | .fault _ => false
  | .aborted => false

structure Predicate where
  identity : Nat
  label : String
  run : Value → PredicateOutcome

namespace Predicate

def passes (predicate : Predicate) (value : Value) : Bool :=
  (predicate.run value).passes

def same (a b : Predicate) : Bool :=
  a.identity == b.identity

def text (predicate : Predicate) : String :=
  "#<Proc " ++ predicate.label ++ ">"

end Predicate

end CallContract
