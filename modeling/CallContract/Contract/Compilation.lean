import CallContract.Contract.Signature
import CallContract.Contract.Slot
import CallContract.Contract.Term

/-!
# From terms to signatures

A contract is a map with one entry from arguments to result.  The arguments
are a list of descriptors, of which the last may be a map of keywords, or such
a map alone.  The first fault in the order of writing is reported: positions,
then keywords, then the result.
-/

namespace CallContract

/-- Tuples and brackets may be nested this deeply. -/
def maxNesting : Nat :=
  64

inductive Side
  | argument
  | result
  deriving DecidableEq, Repr

inductive SignatureError
  | invalidForm (found : String)
  | invalidArgumentSide (found : String)
  | misplacedKeywords (index : Nat)
  | nonSymbolKeyword (key : String)
  | duplicateKeyword (name : Symbol)
  | invalidBehavior (literal : String) (slot : Slot)
  | absentInArguments (slot : Slot)
  | tooDeep (limit : Nat) (slot : Slot)
  deriving DecidableEq, Repr

def SignatureError.detail : SignatureError → String
  | .invalidForm found => "expected a single \x60arguments => return\x60 entry, got " ++ found
  | .invalidArgumentSide found =>
      "arguments must be a list or keyword map, got " ++ found
  | .misplacedKeywords index =>
      "keyword map must be the last argument entry (found at " ++ ordinal (index + 1) ++ ")"
  | .nonSymbolKeyword key => "keyword " ++ key ++ " is not a symbol"
  | .duplicateKeyword name => "duplicate keyword '" ++ name.name ++ "'"
  | .invalidBehavior literal slot =>
      "unknown type behavior " ++ literal ++ " for " ++ slot.text
  | .absentInArguments slot => "nil can only be used for return (" ++ slot.text ++ ")"
  | .tooDeep limit slot =>
      "tuples nested deeper than " ++ toString limit ++ " levels for " ++ slot.text

def SignatureError.message (error : SignatureError) : String :=
  "invalid type signature: " ++ error.detail

mutual

/-- The descriptor of a term that stands inside `depth` lists. -/
def Term.descriptorAt (side : Side) (slot : Slot) (depth : Nat) :
    Term → Except SignatureError Descriptor
  | .list items =>
      if maxNesting < depth then .error (.tooDeep maxNesting slot)
      else (itemDescriptors side slot (depth + 1) items).map .tuple
  | term =>
      if maxNesting < depth then .error (.tooDeep maxNesting slot)
      else
        match term with
        | .scope type => .ok (.instanceOf type)
        | .symbol name => .ok (.respondsTo name)
        | .pattern searched => .ok (.textMatches searched)
        | .interval range => .ok (.within range)
        | .predicate check => .ok (.passes check)
        | .bool true => .ok .truthy
        | .bool false => .ok .falsy
        | .any => .ok .anything
        | .nil =>
            if side = .argument then .error (.absentInArguments slot)
            else if depth = 0 then .ok .absent
            else .error (.invalidBehavior term.text slot)
        | _ => .error (.invalidBehavior term.text slot)

def itemDescriptors (side : Side) (slot : Slot) (depth : Nat) :
    List Term → Except SignatureError (List Descriptor)
  | [] => .ok []
  | item :: rest => do
      let descriptor ← item.descriptorAt side slot depth
      let others ← itemDescriptors side slot depth rest
      pure (descriptor :: others)

end

/-- The descriptor that a term denotes on one side of a contract; `nil` is one
only for a whole result. -/
def Term.descriptor (term : Term) (side : Side) (slot : Slot) :
    Except SignatureError Descriptor :=
  term.descriptorAt side slot 0

def positionalDescriptors : Nat → List Term → Except SignatureError (List Descriptor)
  | _, [] => .ok []
  | index, .map _ :: _ => .error (.misplacedKeywords index)
  | index, item :: rest => do
      let descriptor ← item.descriptor .argument (.position index)
      let others ← positionalDescriptors (index + 1) rest
      pure (descriptor :: others)

/-- The descriptors of keywords behind those already read. -/
def keywordDescriptors (earlier : Table Symbol Descriptor) :
    List (Key × Term) → Except SignatureError (Table Symbol Descriptor)
  | [] => .ok earlier
  | (.symbol name, term) :: rest => do
      let descriptor ← term.descriptor .argument (.keyword name)
      if earlier.contains name then .error (.duplicateKeyword name)
      else keywordDescriptors (earlier ++ [(name, descriptor)]) rest
  | (key, _) :: _ => .error (.nonSymbolKeyword key.text)

/-- Splits a map off the end of a list of terms. -/
def splitKeywords (items : List Term) : List Term × List (Key × Term) :=
  match items.getLast? with
  | some (.map entries) => (items.dropLast, entries)
  | _ => (items, [])

def Term.argumentSide :
    Term → Except SignatureError (List Descriptor × Table Symbol Descriptor)
  | .list items => do
      let (items, entries) := splitKeywords items
      let positional ← positionalDescriptors 0 items
      let keywords ← keywordDescriptors [] entries
      pure (positional, keywords)
  | .map entries => do
      let keywords ← keywordDescriptors [] entries
      pure ([], keywords)
  | term => .error (.invalidArgumentSide term.text)

def Term.signature (term : Term) : Except SignatureError Signature :=
  match term with
  | .map [(.term arguments, result)] => do
      let (positional, keywords) ← arguments.argumentSide
      let result ← result.descriptor .result .result
      pure ⟨positional, keywords, result⟩
  | .map [(key, _)] => .error (.invalidArgumentSide key.text)
  | term => .error (.invalidForm term.text)

end CallContract
