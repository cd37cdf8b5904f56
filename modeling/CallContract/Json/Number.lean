import CallContract.Binary64.Reading
import CallContract.Json.Basic

/-!
# Numbers in data texts

A number without fraction and exponent is an integer if it fits into 64 bits,
with or without a sign.  Every other number is collected in a significand of 64
bits, which is rounded and then scaled by a power of ten; further digits only
count for the scale.  The result may differ from the nearest number in its last
bit.
-/

namespace CallContract.Json

open Binary64 (digitValue readDigits)

/-- A number as it is written; an absent fraction has no digits. -/
structure NumberText where
  negative : Bool
  whole : List Char
  fraction : List Char
  exponent : Option Int
  deriving DecidableEq, Repr

def splitMinus : List Char → Bool × List Char
  | '-' :: rest => (true, rest)
  | chars => (false, chars)

def takeDigits (chars : List Char) : List Char × List Char :=
  (chars.takeWhile Char.isDigit, chars.dropWhile Char.isDigit)

/-- Digits without a zero in front of others. -/
def readWhole (chars : List Char) : Option (List Char × List Char) :=
  match takeDigits chars with
  | ([], _) => none
  | ('0' :: _ :: _, _) => none
  | (digits, rest) => some (digits, rest)

def readFraction : List Char → Option (List Char × List Char)
  | '.' :: chars =>
      match takeDigits chars with
      | ([], _) => none
      | (digits, rest) => some (digits, rest)
  | chars => some ([], chars)

def readExponentDigits (chars : List Char) : Option (Int × List Char) :=
  let (negative, chars) := Binary64.splitSign chars
  match takeDigits chars with
  | ([], _) => none
  | (digits, rest) => some (Binary64.signed negative (readDigits digits), rest)

def readExponent : List Char → Option (Option Int × List Char)
  | [] => some (none, [])
  | c :: rest =>
      if c = 'e' ∨ c = 'E' then
        (readExponentDigits rest).map fun (exponent, rest) => (some exponent, rest)
      else some (none, c :: rest)

def readNumberText (chars : List Char) : Option (NumberText × List Char) := do
  let (negative, chars) := splitMinus chars
  let (whole, chars) ← readWhole chars
  let (fraction, chars) ← readFraction chars
  let (exponent, chars) ← readExponent chars
  pure (⟨negative, whole, fraction, exponent⟩, chars)

/-- Adds digits to a significand as long as 64 bits hold it, and keeps the others. -/
def collectDigits (significand : Nat) : List Char → Nat × List Char
  | [] => (significand, [])
  | digit :: rest =>
      let next := 10 * significand + digitValue digit
      if next < 0x10000000000000000 then collectDigits next rest else (significand, digit :: rest)

def powerOfTen (exponent : Nat) : Binary64 :=
  .ofInt (Nat.pow 10 exponent)

/-- Divides by a power of ten, in steps that are powers of ten themselves. -/
def divideByTens (number : Binary64) (count : Nat) : Binary64 :=
  if hcount : count ≤ 308 then number.div (powerOfTen count)
  else if number.equal (.zero false) then number
  else divideByTens (number.div (powerOfTen 308)) (count - 308)
  termination_by count
  decreasing_by omega

/-- A significand scaled by a power of ten, if the result is finite. -/
def scale? (significand : Nat) (exponent : Int) : Option Binary64 :=
  let number := Binary64.ofInt significand
  if significand = 0 then some number
  else if exponent < 0 then some (divideByTens number exponent.natAbs)
  else if exponent ≤ 308 then
    let product := number.mul (powerOfTen exponent.toNat)
    if product.isFinite then some product else none
  else none

def withSign (negative : Bool) (number : Binary64) : Binary64 :=
  if negative then number.neg else number

/-- A number that has no fraction and no exponent and fits into 64 bits. -/
def integerOrFloat (negative : Bool) (significand : Nat) : Json :=
  if negative then
    if 0 < significand ∧ significand ≤ 0x8000000000000000 then .integer (-significand)
    else .float (Binary64.ofInt significand).neg
  else .integer significand

def NumberText.toJson (text : NumberText) : Json :=
  let (significand, left) := collectDigits 0 text.whole
  if text.fraction = [] ∧ text.exponent = none ∧ left = [] then
    integerOrFloat text.negative significand
  else
    let (significand, dropped) := collectDigits significand text.fraction
    let places : Int := text.fraction.length - dropped.length
    match scale? significand (left.length - places + text.exponent.getD 0) with
    | some number => .float (withSign text.negative number)
    | none => .unreadable

/-- The number at the start of a text. -/
def readNumber (chars : List Char) : Option (Json × List Char) :=
  (readNumberText chars).map fun (text, rest) => (text.toJson, rest)

def writeInteger (number : Int) : List Char :=
  if number < 0 then '-' :: Nat.toDigits 10 number.natAbs else Nat.toDigits 10 number.natAbs

end CallContract.Json
