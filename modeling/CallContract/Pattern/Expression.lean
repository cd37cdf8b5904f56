import CallContract.Pattern.CharSet

/-!
# Expressions and what they match

An expression matches stretches of a text.  Whether it occurs in a text is
found by marking positions: each part of the expression carries the marks
before it to the positions at which one of its matches ends.  A repetition
adds marks until nothing changes, which happens after at most as many rounds
as there are positions.
-/

namespace CallContract.Pattern

/-- A condition on the characters on both sides of a position. -/
inductive Assertion
  | textStart
  | textEnd
  | lineStart
  | lineEnd
  | anyLineStart
  | anyLineEnd
  | wordEdge (word : CharSet)
  | noWordEdge (word : CharSet)
  | wordStart (word : CharSet)
  | wordEnd (word : CharSet)
  | noWordBefore (word : CharSet)
  | noWordAfter (word : CharSet)

/-- The characters before and after a position. -/
structure Surroundings where
  before : Option Char
  after : Option Char

def Assertion.holds (around : Surroundings) : Assertion → Bool
  | .textStart => around.before.isNone
  | .textEnd => around.after.isNone
  | .lineStart => around.before.all (· == '\n')
  | .lineEnd => around.after.all (· == '\n')
  | .anyLineStart =>
      around.before.all (· == '\n') || (around.before == some '\r' && around.after != some '\n')
  | .anyLineEnd =>
      around.after.all (· == '\r') || (around.after == some '\n' && around.before != some '\r')
  | .wordEdge word => around.before.any word != around.after.any word
  | .noWordEdge word => around.before.any word == around.after.any word
  | .wordStart word => !around.before.any word && around.after.any word
  | .wordEnd word => around.before.any word && !around.after.any word
  | .noWordBefore word => !around.before.any word
  | .noWordAfter word => !around.after.any word

/-- A directive changes how the rest of its group is read and matches like the
empty expression.  A set keeps the depth to which its notation is nested. -/
inductive Expression
  | empty
  | directive
  | set (members : CharSet) (depth : Nat)
  | assertion (condition : Assertion)
  | group (body : Expression)
  | repetition (body : Expression) (least : Nat) (most : Option Nat)
  | sequence (parts : List Expression)
  | alternatives (branches : List Expression)

/-- One truth value for each position of a text. -/
abbrev Marks : Type :=
  List Bool

def Marks.join (a b : Marks) : Marks :=
  a.zipWith (· || ·) b

/-- Takes a step a given number of times, or until it changes nothing. -/
def repeatStep (step : Marks → Marks) : Nat → Marks → Marks
  | 0, marks => marks
  | count + 1, marks =>
      if step marks == marks then marks else repeatStep step count (step marks)

/-- Adds to marks what a step reaches from them, for a number of rounds. -/
def accumulate (step : Marks → Marks) (rounds : Nat) (marks : Marks) : Marks :=
  repeatStep (fun current => current.join (step current)) rounds marks

def surroundings (text : List Char) : List Surroundings :=
  (none :: text.map some).zipWith Surroundings.mk (text.map some ++ [none])

mutual

/-- Carries marks over a match of an expression. -/
def Expression.advance (text : List Char) : Expression → Marks → Marks
  | .empty, marks => marks
  | .directive, marks => marks
  | .set members _, marks =>
      false :: marks.zipWith (fun marked c => marked && members c) text
  | .assertion condition, marks =>
      marks.zipWith (fun marked around => marked && condition.holds around) (surroundings text)
  | .group body, marks => body.advance text marks
  | .repetition body least most, marks =>
      let rounds :=
        match most with
        | some most => most - least
        | none => text.length + 1
      accumulate (body.advance text) rounds (repeatStep (body.advance text) least marks)
  | .sequence parts, marks => advanceThrough text parts marks
  | .alternatives branches, marks => advanceByAny text branches marks

def advanceThrough (text : List Char) : List Expression → Marks → Marks
  | [], marks => marks
  | part :: rest, marks => advanceThrough text rest (part.advance text marks)

def advanceByAny (text : List Char) : List Expression → Marks → Marks
  | [], marks => marks.map fun _ => false
  | branch :: rest, marks =>
      (branch.advance text marks).join (advanceByAny text rest marks)

end

/-- Whether an expression matches some stretch of a text. -/
def Expression.occursIn (expression : Expression) (text : List Char) : Bool :=
  (expression.advance text (List.replicate (text.length + 1) true)).any id

mutual

/-- How deeply the parts of an expression are nested in each other. -/
def Expression.depth : Expression → Nat
  | .empty => 0
  | .directive => 0
  | .set _ depth => depth
  | .assertion _ => 0
  | .group body => body.depth + 1
  | .repetition body _ _ => body.depth + 1
  | .sequence parts => partsDepth parts + 1
  | .alternatives branches => partsDepth branches + 1

def partsDepth : List Expression → Nat
  | [] => 0
  | part :: rest => max part.depth (partsDepth rest)

end

end CallContract.Pattern
