import CallContract.Text.LatestEdition

/-!
# Quoted text

A text is quoted between double quotes.  The quote and the backslash are
escaped by a backslash, four controls have letters of their own, and a
character that would not be visible on its own is written by its code point:
a mark that extends the character before it, a character that is ignored where
it is not supported, and a separator other than the space, a control, a format
character, a surrogate, or a code point that is private or unassigned.
-/

namespace CallContract.Text

def isPrintable (c : Char) : Bool :=
  if c.toNat < 0x7F then 0x20 ≤ c.toNat
  else !((latestCategory c).isSeparator || (latestCategory c).isOther)

def hexadecimal (n : Nat) : List Char :=
  Nat.toDigits 16 n

def codePointEscape (c : Char) : List Char :=
  ['\\', 'u', '\x7b'] ++ hexadecimal c.toNat ++ ['\x7d']

def isShownAsIs (c : Char) : Bool :=
  isPrintable c && (c.toNat < 0x7F || !(isExtendingMark c || isIgnorable c))

def quoteChar (c : Char) : List Char :=
  if c = '"' then ['\\', '"']
  else if c = '\\' then ['\\', '\\']
  else if c = '\n' then ['\\', 'n']
  else if c = '\r' then ['\\', 'r']
  else if c = '\t' then ['\\', 't']
  else if c = '\x00' then ['\\', '0']
  else if isShownAsIs c then [c]
  else codePointEscape c

def quoteChars (chars : List Char) : List Char :=
  '"' :: (chars.flatMap quoteChar ++ ['"'])

def quote (text : String) : String :=
  String.ofList (quoteChars text.toList)

end CallContract.Text
