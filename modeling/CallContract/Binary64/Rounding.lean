import CallContract.Binary64.Basic

/-!
# Rounding to the nearest number

An exact result is a quotient of two integers, in units.  It is rounded to
the nearest number of which the significand has 53 bits, and a result halfway
between two numbers goes to the one with the even significand.  Sums,
products and quotients are exact results rounded once.
-/

namespace CallContract.Binary64

/-- The integer nearest to `numerator / denominator`, the even one of two. -/
def divideNearestEven (numerator denominator : Nat) : Nat :=
  let quotient := numerator / denominator
  let twice := 2 * (numerator % denominator)
  if twice < denominator then quotient
  else if denominator < twice then quotient + 1
  else quotient + quotient % 2

/-- The number nearest to `numerator / denominator` units.  A significand that
rounds up to 54 bits carries into the exponent part of the rank. -/
def roundUnits (negative : Bool) (numerator denominator : Nat) : Binary64 :=
  let shift := Nat.log2 (numerator / denominator) - 52
  ofRank negative (shift * fractions + divideNearestEven numerator (denominator * Nat.pow 2 shift))

def roundRatio (negative : Bool) (numerator denominator : Nat) : Binary64 :=
  roundUnits negative (numerator * unitsPerOne) denominator

def ofInt (n : Int) : Binary64 :=
  roundRatio (n < 0) n.natAbs 1

/-- The sum; opposite numbers add up to the positive zero. -/
def add : Binary64 → Binary64 → Binary64
  | .nan, _ | _, .nan => .nan
  | .infinite a, .infinite b => if a == b then .infinite a else .nan
  | .infinite a, .finite _ _ => .infinite a
  | .finite _ _, .infinite b => .infinite b
  | .finite a m, .finite b n =>
      let total := signed a (magnitude m) + signed b (magnitude n)
      if total = 0 then zero (a && b)
      else roundUnits (total < 0) total.natAbs 1

def mul : Binary64 → Binary64 → Binary64
  | .nan, _ | _, .nan => .nan
  | .infinite a, .infinite b => .infinite (a != b)
  | .infinite a, .finite b n => if n.val = 0 then .nan else .infinite (a != b)
  | .finite a m, .infinite b => if m.val = 0 then .nan else .infinite (a != b)
  | .finite a m, .finite b n =>
      roundUnits (a != b) (magnitude m * magnitude n) unitsPerOne

def div : Binary64 → Binary64 → Binary64
  | .nan, _ | _, .nan => .nan
  | .infinite _, .infinite _ => .nan
  | .infinite a, .finite b _ => .infinite (a != b)
  | .finite a _, .infinite b => zero (a != b)
  | .finite a m, .finite b n =>
      if n.val = 0 then
        if m.val = 0 then .nan else .infinite (a != b)
      else roundUnits (a != b) (magnitude m * unitsPerOne) (magnitude n)

/-- The whole part of a finite number. -/
def truncate? : Binary64 → Option Int
  | .finite negative rank => some (signed negative (magnitude rank / unitsPerOne))
  | _ => none

def isWhole : Binary64 → Bool
  | .finite _ rank => magnitude rank % unitsPerOne == 0
  | _ => false

end CallContract.Binary64
