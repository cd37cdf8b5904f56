import CallContract.Binary64.Layout
import CallContract.Text.Joined
import CallContract.Text.Quoted
import CallContract.Value.Basic

/-!
# Texts of values

A value has a literal form, in which texts are quoted and symbols have their
colon, and a plain text, in which they are shown as they are.  The text of an
object or a scope depends on the names of scopes: without them a value that
mentions one has no text, and with them every value has a description.
-/

namespace CallContract.Value

open Text

def truthText (truth : Bool) : String :=
  if truth then "true" else "false"

def intText (number : Int64) : String :=
  toString number.toInt

def floatText (number : Binary64) : String :=
  String.ofList number.valueText

def arrayLiteral (items : List String) : String :=
  "[" ++ commaSeparated items ++ "]"

def pairLiteral (key value : String) : String :=
  key ++ "=>" ++ value

def hashLiteral (pairs : List String) : String :=
  "\x7b" ++ commaSeparated pairs ++ "\x7d"

mutual

/-- The literal form of a value that mentions no object and no scope. -/
def literal? : Value → Option String
  | .nil => some "nil"
  | .bool truth => some (truthText truth)
  | .int number => some (intText number)
  | .float number => some (floatText number)
  | .text content => some (quote content)
  | .symbol name => some name.literal
  | .array items => (itemLiterals? items).map arrayLiteral
  | .hash pairs => (pairLiterals? pairs).map hashLiteral
  | .object _ => none
  | .scope _ => none

def itemLiterals? : List Value → Option (List String)
  | [] => some []
  | item :: rest =>
      match item.literal?, itemLiterals? rest with
      | some first, some others => some (first :: others)
      | _, _ => none

def pairLiterals? : List (Value × Value) → Option (List String)
  | [] => some []
  | (key, value) :: rest =>
      match key.literal?, value.literal?, pairLiterals? rest with
      | some keyText, some valueText, some others =>
          some (pairLiteral keyText valueText :: others)
      | _, _, _ => none

end

/-- The text in which patterns are searched, for a value that mentions no
object and no scope. -/
def plainText? : Value → Option String
  | .nil => some ""
  | .text content => some content
  | .symbol name => some name.name
  | .object _ => none
  | .scope _ => none
  | value => value.literal?

mutual

/-- The literal form of any value, given the names of scopes; an object is
shown by its class. -/
def describe (scopeName : ScopeId → String) : Value → String
  | .object reference => "#<" ++ scopeName reference.ofClass ++ ">"
  | .scope id => scopeName id
  | .array items => arrayLiteral (describeItems scopeName items)
  | .hash pairs => hashLiteral (describePairs scopeName pairs)
  | value => value.literal?.getD ""

def describeItems (scopeName : ScopeId → String) : List Value → List String
  | [] => []
  | item :: rest => item.describe scopeName :: describeItems scopeName rest

def describePairs (scopeName : ScopeId → String) : List (Value × Value) → List String
  | [] => []
  | (key, value) :: rest =>
      pairLiteral (key.describe scopeName) (value.describe scopeName) ::
        describePairs scopeName rest

end

/-- The text in which patterns are searched, given the names of scopes. -/
def searchText? (scopeName : ScopeId → String) (value : Value) : Option String :=
  match value with
  | .object _ | .scope _ | .array _ | .hash _ => some (value.describe scopeName)
  | _ => value.plainText?

end CallContract.Value
