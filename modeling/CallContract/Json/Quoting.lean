/-!
# Texts in quotes

A text in a data text stands between double quotes.  Quotes, backslashes and
controls are escaped, and everything else stands for itself.  Reading also
admits escapes by the number of a unit of 16 bits; two units in a row may be
the halves of one character, and a half alone denotes nothing.
-/

namespace CallContract.Json

def hexadecimalDigit (n : Nat) : Char :=
  Char.ofNat (if n < 10 then '0'.toNat + n else 'a'.toNat + (n - 10))

/-- The escape by number of a character below 256. -/
def numberEscape (c : Char) : List Char :=
  ['\\', 'u', '0', '0', hexadecimalDigit (c.toNat / 16), hexadecimalDigit (c.toNat % 16)]

def escapeChar (c : Char) : List Char :=
  if c = '"' then ['\\', '"']
  else if c = '\\' then ['\\', '\\']
  else if c = '\x08' then ['\\', 'b']
  else if c = '\x0c' then ['\\', 'f']
  else if c = '\n' then ['\\', 'n']
  else if c = '\r' then ['\\', 'r']
  else if c = '\t' then ['\\', 't']
  else if c.toNat < 0x20 then numberEscape c
  else [c]

def writeText (content : String) : List Char :=
  '"' :: (content.toList.flatMap escapeChar ++ ['"'])

/-- What stands at one place of a text: a character or half of one. -/
inductive TextUnit
  | char (c : Char)
  | half (number : Nat)
  deriving DecidableEq, Repr

def escapedChar? (c : Char) : Option Char :=
  match c with
  | '"' => some '"'
  | '\\' => some '\\'
  | '/' => some '/'
  | 'b' => some '\x08'
  | 'f' => some '\x0c'
  | 'n' => some '\n'
  | 'r' => some '\r'
  | 't' => some '\t'
  | _ => none

def hexadecimalValue? (c : Char) : Option Nat :=
  if c.isDigit then some (c.toNat - '0'.toNat)
  else if 'a' ≤ c ∧ c ≤ 'f' then some (c.toNat - 'a'.toNat + 10)
  else if 'A' ≤ c ∧ c ≤ 'F' then some (c.toNat - 'A'.toNat + 10)
  else none

def isFirstHalf (number : Nat) : Bool :=
  0xD800 ≤ number && number < 0xDC00

def isSecondHalf (number : Nat) : Bool :=
  0xDC00 ≤ number && number < 0xE000

def unitOfNumber (number : Nat) : TextUnit :=
  if isFirstHalf number || isSecondHalf number then .half number else .char (Char.ofNat number)

def readUnit? (a b c d : Char) : Option TextUnit := do
  let a ← hexadecimalValue? a
  let b ← hexadecimalValue? b
  let c ← hexadecimalValue? c
  let d ← hexadecimalValue? d
  pure (unitOfNumber (((a * 16 + b) * 16 + c) * 16 + d))

/-- Puts a unit in front of the units that were read behind it. -/
def consUnit? (unit : Option TextUnit) (read : Option (List TextUnit × List Char)) :
    Option (List TextUnit × List Char) :=
  match unit, read with
  | some unit, some (units, rest) => some (unit :: units, rest)
  | _, _ => none

/-- The units up to the closing quote, and what follows it. -/
def readUnits : List Char → Option (List TextUnit × List Char)
  | [] => none
  | '"' :: rest => some ([], rest)
  | '\\' :: 'u' :: a :: b :: c :: d :: rest => consUnit? (readUnit? a b c d) (readUnits rest)
  | '\\' :: c :: rest => consUnit? ((escapedChar? c).map .char) (readUnits rest)
  | c :: rest => if c.toNat < 0x20 then none else consUnit? (some (.char c)) (readUnits rest)

/-- The characters that units denote, if every half has its other half. -/
def joinUnits? : List TextUnit → Option (List Char)
  | [] => some []
  | .char c :: rest => (joinUnits? rest).map (c :: ·)
  | .half first :: .half second :: rest =>
      if isFirstHalf first && isSecondHalf second then
        (joinUnits? rest).map
          (Char.ofNat (0x10000 + (first - 0xD800) * 0x400 + (second - 0xDC00)) :: ·)
      else none
  | .half _ :: _ => none

/-- A text behind its opening quote, if it denotes one, and what follows it. -/
def readText (chars : List Char) : Option (Option String × List Char) :=
  (readUnits chars).map fun (units, rest) => ((joinUnits? units).map String.ofList, rest)

end CallContract.Json
