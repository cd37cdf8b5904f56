import CallContract.Notation.Token
import CallContract.Text.Blank

/-!
# Lexemes

A source is cut into lexemes from left to right, blanks between them being
skipped.  Reading a lexeme yields its token, its width in bytes and the rest
of the source.  Names consist of letters, digits and underscores of ASCII and
may end in a question mark, an exclamation mark or an equals sign that does
not belong to an arrow.  A point belongs to a number only if a digit follows.
-/

namespace CallContract.Notation

def isNameStart (c : Char) : Bool :=
  c.isAlpha || c == '_'

def isNameChar (c : Char) : Bool :=
  c.isAlphanum || c == '_'

/-- The mark that ends the name of a member, if the next characters are one. -/
def nameMark : List Char → List Char
  | '?' :: _ => ['?']
  | '!' :: _ => ['!']
  | '=' :: '>' :: _ => []
  | '=' :: _ => ['=']
  | _ => []

/-- The name at the start of a source, and the rest. -/
def readName (chars : List Char) : List Char × List Char :=
  let stem := chars.takeWhile isNameChar
  let rest := chars.dropWhile isNameChar
  if stem = [] then ([], rest)
  else (stem ++ nameMark rest, rest.drop (nameMark rest).length)

def isDigitOrGap (c : Char) : Bool :=
  c.isDigit || c == '_'

def withoutGaps (chars : List Char) : List Char :=
  chars.filter (· != '_')

def startsWithDigit : List Char → Bool
  | c :: _ => c.isDigit
  | [] => false

/-- The fraction behind a whole part, if the point starts one. -/
def readFraction? : List Char → Option (List Char × List Char)
  | '.' :: rest =>
      if startsWithDigit rest then
        some (rest.takeWhile isDigitOrGap, rest.dropWhile isDigitOrGap)
      else none
  | _ => none

def integerToken (value : Int) : Except Fault Token :=
  if value < Int64.minValue.toInt then .error .integerTooSmall
  else if Int64.maxValue.toInt < value then .error .integerTooLarge
  else .ok (.int (Int64.ofInt value))

/-- Reads a number behind its sign; the width does not include the sign. -/
def readNumber (negative : Bool) (chars : List Char) : Except Fault (Token × Nat × List Char) :=
  let whole := chars.takeWhile isDigitOrGap
  let rest := chars.dropWhile isDigitOrGap
  match readFraction? rest with
  | some (fraction, rest) =>
      let places := withoutGaps fraction
      let digits := Binary64.readDigits (withoutGaps whole ++ places)
      .ok (.float (Binary64.ofDecimal negative ⟨digits, -places.length⟩),
        whole.length + 1 + fraction.length, rest)
  | none => do
      let token ←
        integerToken (Binary64.signed negative (Binary64.readDigits (withoutGaps whole)))
      pure (token, whole.length, rest)

/-- What a character behind a backslash contributes to a string. -/
def unescape (c : Char) : List Char :=
  if c = 'n' then ['\n']
  else if c = 't' then ['\t']
  else if c = '"' ∨ c = '\\' then [c]
  else ['\\', c]

/-- The content of a string up to its closing quote, its width in bytes with
that quote, and the rest. -/
def readString : List Char → Option (List Char × Nat × List Char)
  | [] => none
  | '"' :: rest => some ([], 1, rest)
  | '\\' :: c :: rest =>
      match readString rest with
      | some (content, width, rest) => some (unescape c ++ content, 1 + c.utf8Size + width, rest)
      | none => none
  | ['\\'] => none
  | c :: rest =>
      match readString rest with
      | some (content, width, rest) => some (c :: content, c.utf8Size + width, rest)
      | none => none

/-- The source of a pattern up to the closing slash; only an escaped slash
loses its backslash. -/
def readRegexp : List Char → Option (List Char × Nat × List Char)
  | [] => none
  | '/' :: rest => some ([], 1, rest)
  | '\\' :: c :: rest =>
      match readRegexp rest with
      | some (source, width, rest) =>
          some ((if c = '/' then ['/'] else ['\\', c]) ++ source, 1 + c.utf8Size + width, rest)
      | none => none
  | ['\\'] => none
  | c :: rest =>
      match readRegexp rest with
      | some (source, width, rest) => some (c :: source, c.utf8Size + width, rest)
      | none => none

/-- Whether a colon behind a name makes it the label of an entry. -/
def isLabelColon : List Char → Bool
  | ':' :: ':' :: _ => false
  | ':' :: _ => true
  | _ => false

def readWord (chars : List Char) : Token × Nat × List Char :=
  let (name, rest) := readName chars
  if isLabelColon rest then (.label (String.ofList name), name.length + 1, rest.drop 1)
  else (.word (String.ofList name), name.length, rest)

/-- Reads the lexeme that starts with a character. -/
def readLexeme (c : Char) (rest : List Char) : Except Fault (Token × Nat × List Char) :=
  match c, rest with
  | '[', rest => .ok (.openBracket, 1, rest)
  | ']', rest => .ok (.closeBracket, 1, rest)
  | '\x7b', rest => .ok (.openBrace, 1, rest)
  | '\x7d', rest => .ok (.closeBrace, 1, rest)
  | ',', rest => .ok (.comma, 1, rest)
  | '=', '>' :: rest => .ok (.arrow, 2, rest)
  | '.', '.' :: '.' :: rest => .ok (.dots true, 3, rest)
  | '.', '.' :: rest => .ok (.dots false, 2, rest)
  | ':', rest =>
      let (name, after) := readName rest
      if name = [] then .error .missingSymbolName
      else .ok (.symbol (String.ofList name), 1 + name.length, after)
  | '"', rest =>
      match readString rest with
      | some (content, width, rest) => .ok (.string (String.ofList content), 1 + width, rest)
      | none => .error .unterminatedString
  | '/', rest =>
      match readRegexp rest with
      | some (source, width, rest) => .ok (.regexp (String.ofList source), 1 + width, rest)
      | none => .error .unterminatedRegexp
  | c, rest =>
      if c.isDigit then readNumber false (c :: rest)
      else if c = '-' ∧ startsWithDigit rest then do
        let (token, width, rest) ← readNumber true rest
        pure (token, 1 + width, rest)
      else if isNameStart c then .ok (readWord (c :: rest))
      else .error (.unexpectedCharacter c)

/-- A token with the byte at which its lexeme starts. -/
abbrev Placed : Type :=
  Nat × Token

/-- The tokens from an offset on, the end of the source being the last one.
Every step consumes a character. -/
def tokensFrom : Nat → Nat → List Char → Except Error (List Placed)
  | 0, offset, _ => .ok [(offset, .finish)]
  | _ + 1, offset, [] => .ok [(offset, .finish)]
  | steps + 1, offset, c :: rest =>
      if Text.isBlank c then tokensFrom steps (offset + c.utf8Size) rest
      else
        match readLexeme c rest with
        | .error fault => .error ⟨offset, fault⟩
        | .ok (token, width, rest) => do
            let others ← tokensFrom steps (offset + width) rest
            pure ((offset, token) :: others)

def tokens (source : String) : Except Error (List Placed) :=
  tokensFrom source.toList.length 0 source.toList

end CallContract.Notation
