import CallContract.Symbol

/-!
# Slots

A slot is a place of a contract that a descriptor is written for: a position
among the arguments, counted from zero, a keyword, or the result.
-/

namespace CallContract

/-- A number with the ending that makes it an ordinal. -/
def ordinal (n : Nat) : String :=
  let ending :=
    if n % 100 = 11 ∨ n % 100 = 12 ∨ n % 100 = 13 then "th"
    else if n % 10 = 1 then "st"
    else if n % 10 = 2 then "nd"
    else if n % 10 = 3 then "rd"
    else "th"
  toString n ++ ending

inductive Slot
  | position (index : Nat)
  | keyword (name : Symbol)
  | result
  deriving DecidableEq, Repr

def Slot.text : Slot → String
  | .position index => ordinal (index + 1) ++ " argument"
  | .keyword name => "'" ++ name.name ++ "' keyword argument"
  | .result => "return"

end CallContract
