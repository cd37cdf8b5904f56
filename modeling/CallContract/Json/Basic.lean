import CallContract.Binary64.Basic

/-!
# Data texts

Values leave and enter the program as data texts: trees of objects and lists
over scalars.  The fields of an object keep their order and may repeat a name.
A part that is formed properly but denotes nothing, such as a number beyond
the finite ones, is unreadable; it does no harm where nobody looks at it.

The writers and readers of these trees are one way to have data texts.  Commands
are given their writer, and values their format.
-/

namespace CallContract

inductive Json
  | null
  | bool (truth : Bool)
  | integer (number : Int)
  | float (number : Binary64)
  | string (content : String)
  | array (items : List Json)
  | object (fields : List (String × Json))
  | unreadable
  deriving Repr

/-- There is no float, and integers fit into 64 bits, with or without a sign. -/
inductive Json.IsExact : Json → Prop
  | null : IsExact .null
  | bool (truth : Bool) : IsExact (.bool truth)
  | integer {number : Int} (hlow : -0x8000000000000000 ≤ number)
      (hhigh : number < 0x10000000000000000) : IsExact (.integer number)
  | string (content : String) : IsExact (.string content)
  | array {items : List Json} (hitems : ∀ item ∈ items, IsExact item) : IsExact (.array items)
  | object {fields : List (String × Json)} (hfields : ∀ field ∈ fields, IsExact field.2) :
      IsExact (.object fields)

end CallContract
