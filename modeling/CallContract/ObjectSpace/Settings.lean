import CallContract.Contract.Matching
import CallContract.Text.Blank

/-!
# Settings of an object space

Four limits and switches are read from named variables.  A variable that is
absent, or whose text is no number of the machine, leaves its default.
-/

namespace CallContract

structure Settings where
  traceEnabled : Bool
  traceCapacity : Nat
  maxCallDepth : Nat
  maxMatchDepth : Nat
  deriving DecidableEq, Repr

namespace Settings

def standard : Settings :=
  ⟨false, 1024, 256, defaultMatchDepth⟩

def isSwitchedOn (text : String) : Bool :=
  ["1", "true", "yes", "on"].contains
    (String.ofList ((Text.trim text.toList).map Char.toLower))

def dropPlus : List Char → List Char
  | '+' :: rest => rest
  | chars => chars

/-- A number of 64 bits, with blanks around it and possibly a plus sign. -/
def readCount? (text : String) : Option Nat :=
  let digits := dropPlus (Text.trim text.toList)
  let value := digits.foldl (fun value c => 10 * value + (c.toNat - '0'.toNat)) 0
  if digits ≠ [] ∧ digits.all Char.isDigit ∧ value < 0x10000000000000000 then some value
  else none

def variableNames : List String :=
  ["CALLGUARD_TRACE", "CALLGUARD_TRACE_CAPACITY", "CALLGUARD_MAX_CALL_DEPTH",
    "CALLGUARD_MAX_MATCH_DEPTH"]

def ofVariables (setting? : String → Option String) : Settings where
  traceEnabled := ((setting? "CALLGUARD_TRACE").map isSwitchedOn).getD standard.traceEnabled
  traceCapacity :=
    ((setting? "CALLGUARD_TRACE_CAPACITY").bind readCount?).getD standard.traceCapacity
  maxCallDepth :=
    ((setting? "CALLGUARD_MAX_CALL_DEPTH").bind readCount?).getD standard.maxCallDepth
  maxMatchDepth :=
    ((setting? "CALLGUARD_MAX_MATCH_DEPTH").bind readCount?).getD standard.maxMatchDepth

end Settings

end CallContract
