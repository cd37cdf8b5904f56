import CallContract.Binary64.Rounding

/-!
# Reading decimal text

A decimal number is written with digits, of which one at least is present,
with a point among or around them, and with an optional exponent.  It denotes
the nearest number.  Infinity and the number that is not a value are written
by name in either case.
-/

namespace CallContract.Binary64

/-- `digits` times ten to the power of `exponent`. -/
structure Decimal where
  digits : Nat
  exponent : Int
  deriving DecidableEq, Repr

def decimalLength (n : Nat) : Nat :=
  (Nat.toDigits 10 n).length

/-- The number nearest to a decimal.  A decimal with more than 310 digits
before the point is beyond every finite number, and one that starts with 330
zeros behind the point is nearest to zero. -/
def ofDecimal (negative : Bool) (decimal : Decimal) : Binary64 :=
  if decimal.digits = 0 then zero negative
  else if 310 < decimalLength decimal.digits + decimal.exponent then .infinite negative
  else if decimalLength decimal.digits + decimal.exponent < -330 then zero negative
  else
    roundRatio negative
      (decimal.digits * Nat.pow 10 decimal.exponent.toNat)
      (Nat.pow 10 (-decimal.exponent).toNat)

def digitValue (c : Char) : Nat :=
  c.toNat - '0'.toNat

def readDigits (digits : List Char) : Nat :=
  digits.foldl (fun value c => 10 * value + digitValue c) 0

/-- Splits a sign off, `true` for the minus. -/
def splitSign : List Char → Bool × List Char
  | '-' :: rest => (true, rest)
  | '+' :: rest => (false, rest)
  | chars => (false, chars)

def readExponent? : List Char → Option Int
  | [] => some 0
  | mark :: rest =>
      let (negative, digits) := splitSign rest
      if (mark = 'e' ∨ mark = 'E') ∧ digits ≠ [] ∧ digits.all Char.isDigit then
        some (signed negative (readDigits digits))
      else none

/-- The fraction digits and what follows them. -/
def splitFraction : List Char → List Char × List Char
  | '.' :: rest => (rest.takeWhile Char.isDigit, rest.dropWhile Char.isDigit)
  | chars => ([], chars)

def readUnsignedDecimal? (chars : List Char) : Option Decimal :=
  let whole := chars.takeWhile Char.isDigit
  let (fraction, rest) := splitFraction (chars.dropWhile Char.isDigit)
  if whole = [] ∧ fraction = [] then none
  else
    (readExponent? rest).map fun exponent =>
      ⟨readDigits (whole ++ fraction), exponent - fraction.length⟩

def ofText? (chars : List Char) : Option Binary64 :=
  let (negative, body) := splitSign chars
  let name := body.map Char.toLower
  if name = ['n', 'a', 'n'] then some .nan
  else if name = "inf".toList ∨ name = "infinity".toList then some (.infinite negative)
  else (readUnsignedDecimal? body).map (ofDecimal negative)

end CallContract.Binary64
