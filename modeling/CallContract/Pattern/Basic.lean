/-!
# Patterns

A pattern searches texts and keeps the source that it was made from, by which
patterns are told apart.  Which sources make patterns, what these find in a text,
and why other sources make none is left to an engine.  Whatever reads contracts
is given one, and relies on nothing but that a pattern keeps its source.
-/

namespace CallContract

structure Pattern where
  source : String
  /-- Whether the pattern is found anywhere in a text. -/
  occursIn : String → Bool

/-- What makes patterns of sources, or says why a source makes none. -/
structure Pattern.Engine where
  compile : String → Except String Pattern
  source_of_compile : ∀ {source : String} {pattern : Pattern},
    compile source = .ok pattern → pattern.source = source

end CallContract
