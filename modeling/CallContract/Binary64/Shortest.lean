import CallContract.Binary64.Reading

/-!
# The fewest digits that read back

A finite number is written with the fewest significant digits that are read
back as the same number.  On the grid of decimals with a given number of
digits only the two neighbours of the number need to be tried; if both are
read back, the nearer one is taken, and the halfway case is decided by a rule
of the format.  Seventeen digits suffice for every number, and the exact
decimal expansion stands behind them.
-/

namespace CallContract.Binary64

/-- Which of two decimals stands for a number exactly halfway between them. -/
inductive HalfwayRule
  | larger
  | evenDigit
  deriving DecidableEq, Repr

/-- The numerator and the denominator of a magnitude divided by a power of ten. -/
def scaledRatio (units : Nat) (exponent : Int) : Nat × Nat :=
  (units * Nat.pow 10 (-exponent).toNat, unitsPerOne * Nat.pow 10 exponent.toNat)

/-- The number of digits before the point; for a magnitude below one, zero less
the number of zeros behind the point. -/
def decimalSize (units : Nat) : Int :=
  if unitsPerOne ≤ units then decimalLength (units / unitsPerOne)
  else 1 - decimalLength ((unitsPerOne - 1) / units)

def readsBack (units : Nat) (decimal : Decimal) : Bool :=
  match ofDecimal false decimal with
  | .finite false rank => magnitude rank == units
  | _ => false

/-- Whether the upper one of two neighbouring decimals stands for the number. -/
def prefersUpper (rule : HalfwayRule) (lower twiceRest denominator : Nat) : Bool :=
  if twiceRest = denominator then
    match rule with
    | .larger => true
    | .evenDigit => lower % 2 == 1
  else denominator < twiceRest

def neighbourReadingBack? (rule : HalfwayRule) (units count : Nat) : Option Decimal :=
  let exponent := decimalSize units - count
  let (numerator, denominator) := scaledRatio units exponent
  let lower := numerator / denominator
  let low : Decimal := ⟨lower, exponent⟩
  let high : Decimal := ⟨lower + 1, exponent⟩
  match readsBack units low, readsBack units high with
  | true, true =>
      some (if prefersUpper rule lower (2 * (numerator % denominator)) denominator then high
        else low)
  | true, false => some low
  | false, true => some high
  | false, false => none

/-- The decimal that equals the magnitude. -/
def exactDecimal (units : Nat) : Decimal :=
  ⟨units * Nat.pow 5 1074, -1074⟩

/-- Moves the zeros at the end of the digits into the exponent, at most `limit` of them. -/
def dropTrailingZeros : Nat → Decimal → Decimal
  | 0, decimal => decimal
  | limit + 1, decimal =>
      if decimal.digits % 10 = 0 then
        dropTrailingZeros limit ⟨decimal.digits / 10, decimal.exponent + 1⟩
      else decimal

def shortestDecimal (rule : HalfwayRule) (units : Nat) : Decimal :=
  match (List.range 17).findSome? fun count => neighbourReadingBack? rule units (count + 1) with
  | some decimal => dropTrailingZeros 17 decimal
  | none => exactDecimal units

end CallContract.Binary64
