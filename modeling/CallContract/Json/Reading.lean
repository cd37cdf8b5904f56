import CallContract.Json.Number
import CallContract.Json.Quoting

/-!
# Reading data texts

A data text holds one value between blanks.  Items and fields are separated by
commas, and none follows the last one.  An object of which a name is
unreadable is unreadable as a whole.
-/

namespace CallContract.Json

abbrev Reader (α : Type) : Type :=
  List Char → Option (α × List Char)

def isBlank (c : Char) : Bool :=
  c == ' ' || c == '\n' || c == '\t' || c == '\r'

def skipBlank (chars : List Char) : List Char :=
  chars.dropWhile isBlank

def dropWord? : List Char → List Char → Option (List Char)
  | [], chars => some chars
  | c :: word, d :: chars => if c = d then dropWord? word chars else none
  | _ :: _, [] => none

/-- Items that are separated by commas, up to the closing character.  An item
is not empty, so there are no more items than characters. -/
def readSeparated (item : Reader α) (close : Char) : Nat → Reader (List α)
  | 0, _ => none
  | steps + 1, chars => do
      let (first, rest) ← item chars
      match skipBlank rest with
      | [] => none
      | c :: rest =>
          if c = ',' then do
            let (others, rest) ← readSeparated item close steps rest
            pure (first :: others, rest)
          else if c = close then pure ([first], rest)
          else none

/-- What stands between an opening character that was read and the closing one. -/
def readEnclosed (item : Reader α) (close : Char) : Reader (List α) :=
  fun chars =>
    match skipBlank chars with
    | [] => none
    | c :: rest =>
        if c = close then some ([], rest) else readSeparated item close chars.length chars

/-- A name, if it is readable, with the value behind the colon. -/
def readField (value : Reader Json) : Reader (Option String × Json) :=
  fun chars => do
    match skipBlank chars with
    | '"' :: rest => do
        let (name, rest) ← readText rest
        match skipBlank rest with
        | ':' :: rest => do
            let (content, rest) ← value rest
            pure ((name, content), rest)
        | _ => none
    | _ => none

def nameField? (field : Option String × Json) : Option (String × Json) :=
  field.1.map fun name => (name, field.2)

def objectOfFields (fields : List (Option String × Json)) : Json :=
  match fields.mapM nameField? with
  | some fields => .object fields
  | none => .unreadable

def stringOfText (content : Option String) : Json :=
  match content with
  | some content => .string content
  | none => .unreadable

def readWord (word : String) (meaning : Json) : Reader Json :=
  fun chars => (dropWord? word.toList chars).map fun rest => (meaning, rest)

/-- Reads a value, given the reader for what stands inside it. -/
def readUsing (inner : Reader Json) : Reader Json :=
  fun chars =>
    match skipBlank chars with
    | [] => none
    | c :: rest =>
        match c with
        | '[' =>
            (readEnclosed inner ']' rest).map fun (items, rest) => (.array items, rest)
        | '\x7b' =>
            (readEnclosed (readField inner) '\x7d' rest).map fun (fields, rest) =>
              (objectOfFields fields, rest)
        | '"' => (readText rest).map fun (content, rest) => (stringOfText content, rest)
        | 'n' => readWord "ull" .null rest
        | 't' => readWord "rue" (.bool true) rest
        | 'f' => readWord "alse" (.bool false) rest
        | c => readNumber (c :: rest)

/-- Reads a value with a number of levels inside it. -/
def readValue : Nat → Reader Json
  | 0 => fun _ => none
  | levels + 1 => readUsing (readValue levels)

/-- The value of a whole text. -/
def ofChars? (chars : List Char) : Option Json :=
  match readValue chars.length chars with
  | some (json, rest) => if skipBlank rest = [] then some json else none
  | none => none

def ofText? (text : String) : Option Json :=
  ofChars? text.toList

end CallContract.Json
