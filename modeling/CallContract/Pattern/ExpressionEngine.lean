import CallContract.Pattern.Basic
import CallContract.Pattern.Reader

/-!
# The engine of expressions

This engine reads sources as expressions and searches texts for what these match.
Programs are put together with it, while contracts do not depend on the choice of
an engine.  It bounds the nesting of an expression and the digits of a count, but
not the size of what is repeated.
-/

namespace CallContract.Pattern

/-- The search for an expression, under the source that it was read from. -/
def Expression.pattern (source : String) (expression : Expression) : Pattern :=
  ⟨source, fun text => expression.occursIn text.toList⟩

def Engine.ofExpressions : Engine where
  compile source :=
    match Expression.ofSource? source with
    | some expression => .ok (expression.pattern source)
    | none => .error "the source is no expression"
  source_of_compile := by
    intro source pattern h
    split at h <;> cases h
    rfl

end CallContract.Pattern
