import CallContract.Binary64.Layout
import CallContract.Json.Number
import CallContract.Json.Quoting

/-!
# Writing data texts

A data text is written on one line without blanks, or on many lines with two
spaces for each level.  Numbers that are not finite are written as `null`.
-/

namespace CallContract.Json

def writeFloat (number : Binary64) : List Char :=
  if number.isFinite then Binary64.Layout.interchange.write number else "null".toList

mutual

/-- The text on one line. -/
def compact : Json → List Char
  | .null => "null".toList
  | .bool true => "true".toList
  | .bool false => "false".toList
  | .integer number => writeInteger number
  | .float number => writeFloat number
  | .string content => writeText content
  | .array [] => ['[', ']']
  | .array (item :: rest) => '[' :: (item.compact ++ compactItems rest)
  | .object [] => ['\x7b', '\x7d']
  | .object ((name, content) :: rest) =>
      '\x7b' :: (writeText name ++ ':' :: (content.compact ++ compactFields rest))
  | .unreadable => "null".toList

/-- The items behind the first one, and the closing bracket. -/
def compactItems : List Json → List Char
  | [] => [']']
  | item :: rest => ',' :: (item.compact ++ compactItems rest)

def compactFields : List (String × Json) → List Char
  | [] => ['\x7d']
  | (name, content) :: rest =>
      ',' :: (writeText name ++ ':' :: (content.compact ++ compactFields rest))

end

def newLine (level : Nat) : List Char :=
  '\n' :: List.replicate (2 * level) ' '

mutual

/-- The text on lines of their own for items and fields. -/
def indented (level : Nat) : Json → List Char
  | .array (item :: rest) =>
      '[' :: (newLine (level + 1) ++ item.indented (level + 1) ++ indentedItems level rest)
  | .object ((name, content) :: rest) =>
      '\x7b' :: (newLine (level + 1) ++ writeText name ++ ':' :: ' ' ::
        (content.indented (level + 1) ++ indentedFields level rest))
  | json => json.compact

def indentedItems (level : Nat) : List Json → List Char
  | [] => newLine level ++ [']']
  | item :: rest =>
      ',' :: (newLine (level + 1) ++ item.indented (level + 1) ++ indentedItems level rest)

def indentedFields (level : Nat) : List (String × Json) → List Char
  | [] => newLine level ++ ['\x7d']
  | (name, content) :: rest =>
      ',' :: (newLine (level + 1) ++ writeText name ++ ':' :: ' ' ::
        (content.indented (level + 1) ++ indentedFields level rest))

end

def compactText (json : Json) : String :=
  String.ofList json.compact

def indentedText (json : Json) : String :=
  String.ofList (json.indented 0)

end CallContract.Json
