import CallContract.Contract.Descriptor

/-!
# Terms

A term is what somebody writes down as a contract, before anything checks that
it is one.  A map has entries in order; it serves for keywords and for the
entry from arguments to result, so its keys are symbols, texts or terms.
-/

namespace CallContract

mutual

inductive Term
  | scope (type : TypeRef)
  | symbol (name : Symbol)
  | pattern (searched : Pattern)
  | interval (range : Interval)
  | list (items : List Term)
  | map (entries : List (Key × Term))
  | predicate (check : Predicate)
  | bool (truth : Bool)
  | nil
  | any
  | int (number : Int64)
  | float (number : Binary64)
  | quoted (content : String)

inductive Key
  | symbol (name : Symbol)
  | quoted (content : String)
  | term (content : Term)

end

/-- The map with the single entry from arguments to result. -/
def Term.spec (arguments result : Term) : Term :=
  .map [(.term arguments, result)]

def literalFloatText (number : Binary64) : String :=
  String.ofList (Binary64.Layout.literal.write number)

mutual

def Term.text : Term → String
  | .scope type => type.name
  | .symbol name => name.literal
  | .pattern searched => "/" ++ searched.source ++ "/"
  | .interval range => range.text
  | .list items => "[" ++ Text.commaSeparated (itemTexts items) ++ "]"
  | .map entries => "\x7b" ++ Text.commaSeparated (entryTexts entries) ++ "\x7d"
  | .predicate check => check.text
  | .bool truth => Value.truthText truth
  | .nil => "nil"
  | .any => "Any"
  | .int number => Value.intText number
  | .float number => literalFloatText number
  | .quoted content => Text.quote content

/-- A key as it stands in a map, with what joins it to its term. -/
def Key.entryStart : Key → String
  | .symbol name => name.name ++ ": "
  | .quoted content => Text.quote content ++ " => "
  | .term content => content.text ++ " => "

def itemTexts : List Term → List String
  | [] => []
  | item :: rest => item.text :: itemTexts rest

def entryTexts : List (Key × Term) → List String
  | [] => []
  | (key, term) :: rest => (key.entryStart ++ term.text) :: entryTexts rest

end

/-- A key on its own. -/
def Key.text : Key → String
  | .symbol name => name.literal
  | .quoted content => Text.quote content
  | .term content => content.text

end CallContract
