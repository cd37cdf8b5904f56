import CallContract.Json.Reading
import CallContract.Json.Writing
import CallContract.Value.Basic

/-!
# Values as data texts

A value is written as an object with one field, whose name is the kind of the
value; `nil` is the name of its kind alone.  Reading follows the nesting of
lists and objects to a bounded depth.  The fields of an object reference may
come in any order, among others, or as a list without names.
-/

namespace CallContract.Value

/-- The object with one field. -/
def tagged (kind : String) (content : Json) : Json :=
  .object [(kind, content)]

def referenceJson (reference : ObjectRef) : Json :=
  .object [("id", .integer reference.id.number), ("class", .integer reference.ofClass.index)]

mutual

def toJson : Value → Json
  | .nil => .string "Nil"
  | .bool truth => tagged "Bool" (.bool truth)
  | .int number => tagged "Int" (.integer number.toInt)
  | .float number => tagged "Float" (.float number)
  | .text content => tagged "Str" (.string content)
  | .symbol name => tagged "Symbol" (.string name.name)
  | .array items => tagged "Array" (.array (itemsToJson items))
  | .hash pairs => tagged "Hash" (.array (pairsToJson pairs))
  | .object reference => tagged "Object" (referenceJson reference)
  | .scope id => tagged "Scope" (.integer id.index)

def itemsToJson : List Value → List Json
  | [] => []
  | item :: rest => item.toJson :: itemsToJson rest

def pairsToJson : List (Value × Value) → List Json
  | [] => []
  | (key, value) :: rest => .array [key.toJson, value.toJson] :: pairsToJson rest

end

/-- Lists and objects may be nested this deeply. -/
def maxDataNesting : Nat :=
  127

/-- A number of an object or a scope, of 32 bits. -/
def number32? : Json → Option Nat
  | .integer number =>
      if 0 ≤ number ∧ number < 0x100000000 then some number.toNat else none
  | _ => none

/-- The only field of a name. -/
def soleField? (name : String) (fields : List (String × Json)) : Option Json :=
  match fields.filter fun field => field.1 == name with
  | [(_, content)] => some content
  | _ => none

def reference? : Json → Option ObjectRef
  | .object fields => do
      let id ← soleField? "id" fields >>= number32?
      let ofClass ← soleField? "class" fields >>= number32?
      pure ⟨⟨id⟩, ⟨ofClass⟩⟩
  | .array [id, ofClass] => do
      let id ← number32? id
      let ofClass ← number32? ofClass
      pure ⟨⟨id⟩, ⟨ofClass⟩⟩
  | _ => none

def boolContent? : Json → Option Value
  | .bool truth => some (.bool truth)
  | _ => none

def intContent? : Json → Option Value
  | .integer number =>
      if Int64.minValue.toInt ≤ number ∧ number ≤ Int64.maxValue.toInt then
        some (.int (Int64.ofInt number))
      else none
  | _ => none

def floatContent? : Json → Option Value
  | .float number => some (.float number)
  | .integer number => some (.float (.ofInt number))
  | _ => none

def stringContent? : Json → Option String
  | .string content => some content
  | _ => none

def nilContent? : Json → Option Value
  | .null => some .nil
  | _ => none

/-- The value of a kind whose content holds no other values. -/
def plainContent? (kind : String) (content : Json) : Option Value :=
  match kind with
  | "Nil" => nilContent? content
  | "Bool" => boolContent? content
  | "Int" => intContent? content
  | "Float" => floatContent? content
  | "Str" => (stringContent? content).map .text
  | "Symbol" => (stringContent? content).map fun name => .symbol ⟨name⟩
  | "Scope" => (number32? content).map fun id => .scope ⟨id⟩
  | _ => none

mutual

/-- The value that a data text denotes, with room for so many levels. -/
def ofJsonWithin : Nat → Json → Option Value
  | _, .string kind => if kind = "Nil" then some .nil else none
  | room + 1, .object [(kind, content)] => contentWithin room kind content
  | _, _ => none

/-- The value of a kind with a content. -/
def contentWithin : Nat → String → Json → Option Value
  | room, kind, content =>
      if kind = "Array" then
        match room, content with
        | room + 1, .array items => (itemsWithin room items).map .array
        | _, _ => none
      else if kind = "Hash" then
        match room, content with
        | room + 1, .array pairs => (pairsWithin room pairs).map .hash
        | _, _ => none
      else if kind = "Object" then
        match room with
        | _ + 1 => (reference? content).map .object
        | 0 => none
      else plainContent? kind content

def itemsWithin : Nat → List Json → Option (List Value)
  | _, [] => some []
  | room, item :: rest =>
      match ofJsonWithin room item, itemsWithin room rest with
      | some value, some values => some (value :: values)
      | _, _ => none

def pairsWithin : Nat → List Json → Option (List (Value × Value))
  | _, [] => some []
  | room + 1, .array [key, value] :: rest =>
      match ofJsonWithin room key, ofJsonWithin room value, pairsWithin (room + 1) rest with
      | some key, some value, some pairs => some ((key, value) :: pairs)
      | _, _, _ => none
  | _, _ => none

end

def ofJson? (json : Json) : Option Value :=
  ofJsonWithin maxDataNesting json

/-- There is no float, and objects and scopes have numbers of 32 bits. -/
inductive IsPortable : Value → Prop
  | nil : IsPortable .nil
  | bool (truth : Bool) : IsPortable (.bool truth)
  | int (number : Int64) : IsPortable (.int number)
  | text (content : String) : IsPortable (.text content)
  | symbol (name : Symbol) : IsPortable (.symbol name)
  | array {items : List Value} (hitems : ∀ item ∈ items, IsPortable item) :
      IsPortable (.array items)
  | hash {pairs : List (Value × Value)} (hkeys : ∀ pair ∈ pairs, IsPortable pair.1)
      (hvalues : ∀ pair ∈ pairs, IsPortable pair.2) : IsPortable (.hash pairs)
  | object {reference : ObjectRef} (hid : reference.id.number < 0x100000000)
      (hclass : reference.ofClass.index < 0x100000000) : IsPortable (.object reference)
  | scope {id : ScopeId} (hid : id.index < 0x100000000) : IsPortable (.scope id)

end CallContract.Value
