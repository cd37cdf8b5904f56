import CallContract.Binary64.Layout
import CallContract.Text.Quoted
import CallContract.Value.Text

/-!
# Tokens and faults of the notation

Contracts and values are written in a notation whose texts fall into tokens.
A fault names what was wrong and, where something else was expected, the token
that was found; it is reported with the byte at which it was noticed.
-/

namespace CallContract.Notation

inductive Token
  | openBracket
  | closeBracket
  | openBrace
  | closeBrace
  | comma
  | arrow
  | dots (excludesStop : Bool)
  | word (name : String)
  | label (name : String)
  | symbol (name : String)
  | int (number : Int64)
  | float (number : Binary64)
  | string (content : String)
  | regexp (source : String)
  | finish
  deriving DecidableEq, Repr

def Token.describe : Token → String
  | .openBracket => "'['"
  | .closeBracket => "']'"
  | .openBrace => "'\x7b'"
  | .closeBrace => "'\x7d'"
  | .comma => "','"
  | .arrow => "'=>'"
  | .dots false => "'..'"
  | .dots true => "'...'"
  | .word name => "identifier '" ++ name ++ "'"
  | .label name => "label '" ++ name ++ ":'"
  | .symbol name => "symbol ':" ++ name ++ "'"
  | .int number => "integer " ++ Value.intText number
  | .float number => "float " ++ String.ofList (Binary64.Layout.plain.write number)
  | .string content => "string " ++ Text.quote content
  | .regexp source => "regexp /" ++ source ++ "/"
  | .finish => "end of input"

inductive Fault
  | unexpectedCharacter (c : Char)
  | missingSymbolName
  | unterminatedString
  | unterminatedRegexp
  | integerTooLarge
  | integerTooSmall
  | invalidRegexp (reason : String)
  | unknownConstant (name : String)
  | undefinedName (name : String)
  | nestingTooDeep
  | expected (wanted found : Token)
  | expectedTerm (found : Token)
  | expectedValue (found : Token)
  | expectedRangeEnd (found : Token)
  deriving DecidableEq, Repr

def Fault.message : Fault → String
  | .unexpectedCharacter c => "unexpected character '" ++ c.toString ++ "'"
  | .missingSymbolName => "expected a symbol name after ':'"
  | .unterminatedString => "unterminated string"
  | .unterminatedRegexp => "unterminated regexp"
  | .integerTooLarge => "invalid integer: number too large to fit in target type"
  | .integerTooSmall => "invalid integer: number too small to fit in target type"
  | .invalidRegexp reason => "invalid regexp: " ++ reason
  | .unknownConstant name => "uninitialized constant " ++ name
  | .undefinedName name => "undefined name '" ++ name ++ "'"
  | .nestingTooDeep => "nesting too deep"
  | .expected wanted found => "expected " ++ wanted.describe ++ ", found " ++ found.describe
  | .expectedTerm found => "expected a term, found " ++ found.describe
  | .expectedValue found => "expected a value, found " ++ found.describe
  | .expectedRangeEnd found => "expected a range end, found " ++ found.describe

/-- A fault and the byte of the source at which it was noticed. -/
structure Error where
  offset : Nat
  fault : Fault
  deriving DecidableEq, Repr

def Error.message (error : Error) : String :=
  "notation error at offset " ++ toString error.offset ++ ": " ++ error.fault.message

end CallContract.Notation
