import CallContract.Binary64.Shortest

/-!
# Layouts of decimal text

A layout says how the shortest digits of a number are set: for which sizes
the point is written in its place and for which an exponent is used, whether
a whole number keeps a fraction, and how exponents are signed.
-/

namespace CallContract.Binary64

/-- Numbers from `10 ^ (smallestSize - 1)` up to below `10 ^ largestSize` are
written without exponent, and so is zero; without sizes every number is. -/
structure Layout where
  halfway : HalfwayRule
  sizes : Option (Int × Int)
  wholeFraction : Bool
  exponentPlus : Bool

/-- Never an exponent, and no fraction on whole numbers. -/
def Layout.plain : Layout :=
  ⟨.larger, none, false, false⟩

/-- Whole numbers keep their fraction, and an exponent is used below `1e-4`
and from `1e16` on. -/
def Layout.literal : Layout :=
  ⟨.larger, some (-3, 16), true, false⟩

/-- The text of numbers in data files: an exponent is used below `1e-5` and
from `1e16` on, and a positive one has a sign. -/
def Layout.interchange : Layout :=
  ⟨.evenDigit, some (-4, 16), true, true⟩

def digitChars (n : Nat) : List Char :=
  Nat.toDigits 10 n

/-- The digits of a decimal with the point in its place. -/
def positional (wholeFraction : Bool) (decimal : Decimal) : List Char :=
  let digits := digitChars decimal.digits
  if 0 ≤ decimal.exponent then
    digits ++ List.replicate decimal.exponent.toNat '0' ++
      (if wholeFraction then ['.', '0'] else [])
  else
    let places := (-decimal.exponent).toNat
    let padded := List.replicate (places + 1 - digits.length) '0' ++ digits
    padded.take (padded.length - places) ++ '.' :: padded.drop (padded.length - places)

def withExponent (exponentPlus : Bool) (decimal : Decimal) : List Char :=
  let digits := digitChars decimal.digits
  let exponent := decimal.exponent + digits.length - 1
  digits.take 1 ++ (if digits.length = 1 then [] else '.' :: digits.drop 1) ++
    'e' :: (if exponent < 0 then ['-'] else if exponentPlus then ['+'] else []) ++
      digitChars exponent.natAbs

def Layout.writeMagnitude (layout : Layout) (units : Nat) : List Char :=
  if units = 0 then positional layout.wholeFraction ⟨0, 0⟩
  else
    let decimal := shortestDecimal layout.halfway units
    let size := decimal.exponent + decimalLength decimal.digits
    match layout.sizes with
    | some (smallest, largest) =>
        if smallest ≤ size ∧ size ≤ largest then positional layout.wholeFraction decimal
        else withExponent layout.exponentPlus decimal
    | none => positional layout.wholeFraction decimal

def signChars (negative : Bool) : List Char :=
  if negative then ['-'] else []

def Layout.write (layout : Layout) : Binary64 → List Char
  | .nan => "NaN".toList
  | .infinite negative => signChars negative ++ "inf".toList
  | .finite negative rank => signChars negative ++ layout.writeMagnitude (magnitude rank)

/-- A whole number written to its last digit, with the fraction `.0`. -/
def writeWhole (negative : Bool) (units : Nat) : List Char :=
  signChars negative ++ digitChars (units / unitsPerOne) ++ ['.', '0']

/-- The text of a number as a value: whole numbers exactly and with a fraction,
all others plainly. -/
def valueText : Binary64 → List Char
  | .finite negative rank =>
      if magnitude rank % unitsPerOne = 0 then writeWhole negative (magnitude rank)
      else Layout.plain.write (.finite negative rank)
  | x => Layout.plain.write x

end CallContract.Binary64
