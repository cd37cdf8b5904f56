import CallContract.Contract.Compilation
import CallContract.Notation.Lexeme

/-!
# Reading terms and values

Terms and values are read from tokens by one token of lookahead.  Brackets and
braces hold items that are separated by commas, the last of which may be
followed by one, and they may be nested to a fixed depth: reading inside a
bracket goes on with one level less.  Names that start with a capital letter
are looked up as scopes, and sources of patterns are given to an engine.
-/

namespace CallContract.Notation

abbrev Tokens : Type :=
  List Placed

/-- How names of scopes are looked up. -/
abbrev Resolver : Type :=
  String → Option ScopeId

abbrev Reader (α : Type) : Type :=
  Tokens → Except Error (α × Tokens)

def firstToken : Tokens → Placed
  | [] => (0, .finish)
  | placed :: _ => placed

def failAt (tokens : Tokens) (fault : Token → Fault) : Except Error α :=
  .error ⟨(firstToken tokens).1, fault (firstToken tokens).2⟩

/-- The rest behind a token, if it comes first. -/
def eat? (wanted : Token) : Tokens → Option Tokens
  | [] => none
  | (_, token) :: rest => if token = wanted then some rest else none

def expect (wanted : Token) (tokens : Tokens) : Except Error Tokens :=
  match eat? wanted tokens with
  | some rest => .ok rest
  | none => failAt tokens (.expected wanted)

/-- The items up to the closing token.  An item consumes a token, so there are
no more items than tokens. -/
def readItems (item : Reader α) (close : Token) : Nat → Reader (List α)
  | 0, tokens => do
      let rest ← expect close tokens
      pure ([], rest)
  | steps + 1, tokens =>
      match eat? close tokens with
      | some rest => .ok ([], rest)
      | none => do
          let (value, rest) ← item tokens
          match eat? .comma rest with
          | some rest => do
              let (values, rest) ← readItems item close steps rest
              pure (value :: values, rest)
          | none => do
              let rest ← expect close rest
              pure ([value], rest)

/-- Reads what is inside a bracket that was opened at an offset, if another
level is left. -/
def readNested
    (inner : Option (Reader α))
    (entry : Reader α → Reader β)
    (offset : Nat)
    (close : Token) : Reader (List β) :=
  fun tokens =>
    match inner with
    | none => .error ⟨offset, .nestingTooDeep⟩
    | some reader => readItems (entry reader) close tokens.length tokens

def startsWithCapital (name : String) : Bool :=
  match name.toList with
  | c :: _ => c.isUpper
  | [] => false

/-- What a name denotes among some words and the scopes. -/
def readName?
    (resolve : Resolver)
    (words : List (String × α))
    (ofScope : ScopeId → α)
    (offset : Nat)
    (name : String) : Except Error α :=
  match words.lookup name with
  | some meaning => .ok meaning
  | none =>
      if startsWithCapital name then
        match resolve name with
        | some id => .ok (ofScope id)
        | none => .error ⟨offset, .unknownConstant name⟩
      else .error ⟨offset, .undefinedName name⟩

def boundValue? : Token → Option Value
  | .int number => some (.int number)
  | .float number => some (.float number)
  | .string content => some (.text content)
  | _ => none

/-- The bound at the start of some tokens, if there is one, and the rest. -/
def readBound : Tokens → Option Value × Tokens
  | [] => (none, [])
  | (offset, token) :: rest =>
      match boundValue? token with
      | some bound => (some bound, rest)
      | none => (none, (offset, token) :: rest)

/-- A literal, or the interval that it starts.  Without an end there is nothing
that could be excluded. -/
def readInterval (start : Value) (literal : Term) : Tokens → Term × Tokens
  | (_, .dots excludesStop) :: rest =>
      let (stop, rest) := readBound rest
      (.interval ⟨some start, stop, excludesStop && stop.isSome⟩, rest)
  | tokens => (literal, tokens)

def readIntervalWithoutStart (excludesStop : Bool) (tokens : Tokens) :
    Except Error (Term × Tokens) :=
  match readBound tokens with
  | (some stop, rest) => .ok (.interval ⟨none, some stop, excludesStop⟩, rest)
  | (none, rest) => failAt rest .expectedRangeEnd

/-- An entry with a label, or with a key and an arrow. -/
def readEntry (reader : Reader Term) : Reader (Key × Term)
  | (_, .label name) :: rest => do
      let (term, rest) ← reader rest
      pure ((.symbol ⟨name⟩, term), rest)
  | tokens => do
      let (key, rest) ← reader tokens
      let rest ← expect .arrow rest
      let (term, rest) ← reader rest
      let key :=
        match key with
        | .symbol name => Key.symbol name
        | .quoted content => Key.quoted content
        | content => Key.term content
      pure ((key, term), rest)

def termWords : List (String × Term) :=
  [("Any", .any), ("nil", .nil), ("true", .bool true), ("false", .bool false)]

/-- Reads a term, given the reader for one level further inside. -/
def readTermUsing
    (engine : Pattern.Engine)
    (resolve : Resolver)
    (inner : Option (Reader Term)) : Reader Term
  | [] => failAt [] .expectedTerm
  | (offset, token) :: rest =>
      match token with
      | .openBracket => do
          let (items, rest) ← readNested inner id offset .closeBracket rest
          pure (.list items, rest)
      | .openBrace => do
          let (entries, rest) ← readNested inner readEntry offset .closeBrace rest
          pure (.map entries, rest)
      | .symbol name => .ok (.symbol ⟨name⟩, rest)
      | .regexp source =>
          match engine.compile source with
          | .ok searched => .ok (.pattern searched, rest)
          | .error reason => .error ⟨offset, .invalidRegexp reason⟩
      | .dots excludesStop => readIntervalWithoutStart excludesStop rest
      | .int number => .ok (readInterval (.int number) (.int number) rest)
      | .float number => .ok (readInterval (.float number) (.float number) rest)
      | .string content => .ok (readInterval (.text content) (.quoted content) rest)
      | .word name => do
          let term ← readName? resolve termWords (fun id => .scope ⟨id, name⟩) offset name
          pure (term, rest)
      | token => .error ⟨offset, .expectedTerm token⟩

/-- Reads a term that may hold brackets of a number of levels. -/
def readTerm (engine : Pattern.Engine) (resolve : Resolver) : Nat → Reader Term
  | 0 => readTermUsing engine resolve none
  | levels + 1 => readTermUsing engine resolve (some (readTerm engine resolve levels))

def readPair (reader : Reader Value) : Reader (Value × Value)
  | (_, .label name) :: rest => do
      let (value, rest) ← reader rest
      pure ((.symbol ⟨name⟩, value), rest)
  | tokens => do
      let (key, rest) ← reader tokens
      let rest ← expect .arrow rest
      let (value, rest) ← reader rest
      pure ((key, value), rest)

def valueWords : List (String × Value) :=
  [("nil", .nil), ("true", .bool true), ("false", .bool false)]

/-- Reads a value, given the reader for one level further inside. -/
def readValueUsing (resolve : Resolver) (inner : Option (Reader Value)) : Reader Value
  | [] => failAt [] .expectedValue
  | (offset, token) :: rest =>
      match token with
      | .openBracket => do
          let (items, rest) ← readNested inner id offset .closeBracket rest
          pure (.array items, rest)
      | .openBrace => do
          let (pairs, rest) ← readNested inner readPair offset .closeBrace rest
          pure (.hash pairs, rest)
      | .symbol name => .ok (.symbol ⟨name⟩, rest)
      | .int number => .ok (.int number, rest)
      | .float number => .ok (.float number, rest)
      | .string content => .ok (.text content, rest)
      | .word name => do
          let value ← readName? resolve valueWords Value.scope offset name
          pure (value, rest)
      | token => .error ⟨offset, .expectedValue token⟩

def readValue (resolve : Resolver) : Nat → Reader Value
  | 0 => readValueUsing resolve none
  | levels + 1 => readValueUsing resolve (some (readValue resolve levels))

def finishAt (tokens : Tokens) : Except Error Unit := do
  let _ ← expect .finish tokens
  pure ()

/-- A contract, or a single behavior.  An arrow between two terms is short for
the map with that one entry. -/
def readSpec
    (engine : Pattern.Engine)
    (resolve : Resolver)
    (tokens : Tokens) : Except Error Term := do
  let (first, rest) ← readTerm engine resolve maxNesting tokens
  match eat? .arrow rest with
  | some rest => do
      let (second, rest) ← readTerm engine resolve maxNesting rest
      finishAt rest
      pure (.spec first second)
  | none => do
      finishAt rest
      pure first

def parseSpec
    (engine : Pattern.Engine)
    (resolve : Resolver)
    (source : String) : Except Error Term := do
  let tokens ← tokens source
  readSpec engine resolve tokens

def parseValue (resolve : Resolver) (source : String) : Except Error Value := do
  let tokens ← tokens source
  let (value, rest) ← readValue resolve maxNesting tokens
  finishAt rest
  pure value

end CallContract.Notation
