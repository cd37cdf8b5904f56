import CallContract.Pattern.Expression

/-!
# Flags and escapes

Flags change how an expression is read: whether case matters, what the line
anchors and the dot mean, whether blanks and comments are skipped, and whether
characters beyond ASCII are known.  A backslash introduces a literal
character, a set or an assertion; letters and digits that have no meaning
after it are refused.
-/

namespace CallContract.Pattern

structure Flags where
  ignoreCase : Bool
  multiLine : Bool
  dotAll : Bool
  ignoreBlanks : Bool
  anyNewline : Bool
  wholeRange : Bool
  deriving DecidableEq, Repr

def Flags.standard : Flags :=
  ⟨false, false, false, false, false, true⟩

/-- The rest of a text behind blanks and comments, which end with their line. -/
def skipBlanks (inComment : Bool) : List Char → List Char
  | [] => []
  | c :: rest =>
      if inComment then skipBlanks (c != '\n') rest
      else if Text.isBlank c then skipBlanks false rest
      else if c = '#' then skipBlanks true rest
      else c :: rest

def Flags.skip (flags : Flags) (chars : List Char) : List Char :=
  if flags.ignoreBlanks then skipBlanks false chars else chars

/-- The characters up to a closing brace, without skipped blanks, and the rest
behind the brace. -/
def spanBrace (ignoreBlanks inComment : Bool) : List Char → Option (List Char × List Char)
  | [] => none
  | c :: rest =>
      if inComment then spanBrace ignoreBlanks (c != '\n') rest
      else if ignoreBlanks && Text.isBlank c then spanBrace ignoreBlanks false rest
      else if ignoreBlanks && c == '#' then spanBrace ignoreBlanks true rest
      else if c = '\x7d' then some ([], rest)
      else (spanBrace ignoreBlanks false rest).map fun found => (c :: found.1, found.2)

/-- What stands for one character, or for a position, in an expression.  A
character that was given by two digits is a byte where characters are not known. -/
inductive Primitive
  | literal (c : Char)
  | byte (c : Char)
  | set (members : CharSet)
  | assertion (condition : Assertion)

def Flags.word (flags : Flags) : CharSet :=
  if flags.wholeRange then CharSet.word else CharSet.asciiWord

/-- A set without the characters of another one; without the whole range of
characters nothing can be left out, since a half of a character would match. -/
def Flags.complement? (flags : Flags) (members : CharSet) : Option CharSet :=
  if flags.wholeRange then some members.complement else none

def Flags.negateIf (flags : Flags) (negated : Bool) (members : CharSet) : Option CharSet :=
  if negated then flags.complement? members else some members

def Flags.closeCase (flags : Flags) (members : CharSet) : CharSet :=
  if flags.ignoreCase then
    if flags.wholeRange then members.caseClosure else members.asciiCaseClosure
  else members

def Flags.literalSet (flags : Flags) (c : Char) : CharSet :=
  flags.closeCase (CharSet.single c)

/-- Whether a byte, or a character of a set, is known under the flags. -/
def Flags.knows (flags : Flags) (c : Char) : Bool :=
  flags.wholeRange || c.toNat < 0x80

/-- The classes that are named by a letter. -/
def Flags.letterClass? (flags : Flags) : Char → Option CharSet
  | 'd' => some (if flags.wholeRange then CharSet.digit else Char.isDigit)
  | 's' => some (if flags.wholeRange then Text.isBlank else CharSet.asciiBlank)
  | 'w' => some flags.word
  | _ => none

def hexValue? (c : Char) : Option Nat :=
  if c.isDigit then some (c.toNat - '0'.toNat)
  else if 'a' ≤ c ∧ c ≤ 'f' then some (c.toNat - 'a'.toNat + 10)
  else if 'A' ≤ c ∧ c ≤ 'F' then some (c.toNat - 'A'.toNat + 10)
  else none

def charOfCode? (code : Nat) : Option Char :=
  if h : code.isValidChar then some (Char.ofNatAux code h) else none

def readHexDigits (flags : Flags) : Nat → Nat → List Char → Option (Nat × List Char)
  | 0, value, chars => some (value, chars)
  | count + 1, value, chars =>
      match flags.skip chars with
      | [] => none
      | c :: rest =>
          match hexValue? c with
          | some digit => readHexDigits flags count (value * 16 + digit) rest
          | none => none

def hexNumber? (digits : List Char) : Option Nat :=
  if digits = [] then none
  else
    digits.foldl
      (fun value c =>
        match value, hexValue? c with
        | some value, some digit => some (value * 16 + digit)
        | _, _ => none)
      (some 0)

/-- A character by its code point, with a fixed number of digits or in braces. -/
def readCodePoint (flags : Flags) (count : Nat) (chars : List Char) :
    Option (Primitive × List Char) :=
  match flags.skip chars with
  | '\x7b' :: rest => do
      let (digits, rest) ← spanBrace flags.ignoreBlanks false rest
      let code ← hexNumber? digits
      let c ← charOfCode? code
      pure (.literal c, rest)
  | rest => do
      let (code, rest) ← readHexDigits flags count 0 rest
      let c ← charOfCode? code
      pure (if count = 2 then .byte c else .literal c, rest)

/-- Splits at the first occurrence of a mark that is one of the given texts. -/
def splitAtMark (mark : List Char) : List Char → Option (List Char × List Char)
  | [] => none
  | c :: rest =>
      if mark.isPrefixOf (c :: rest) then some ([], (c :: rest).drop mark.length)
      else (splitAtMark mark rest).map fun found => (c :: found.1, found.2)

/-- A set named in braces: a name alone, or a property with a value. -/
def propertySet? (content : List Char) : Option (Bool × CharSet) :=
  match splitAtMark ['!', '='] content with
  | some (property, value) => (CharSet.valued? property value).map fun members => (true, members)
  | none =>
      match (splitAtMark [':'] content).or (splitAtMark ['='] content) with
      | some (property, value) =>
          (CharSet.valued? property value).map fun members => (false, members)
      | none => (CharSet.named? content).map fun members => (false, members)

def readPropertySet (flags : Flags) (negated : Bool) (chars : List Char) :
    Option (CharSet × List Char) := do
  let ((inverted, members), rest) ←
    match flags.skip chars with
    | [] => none
    | '\x7b' :: rest => do
        let (content, rest) ← spanBrace flags.ignoreBlanks false rest
        let found ← propertySet? content
        pure (found, rest)
    | '\\' :: _ => none
    | c :: rest => (CharSet.named? [c]).map fun members => ((false, members), rest)
  if flags.wholeRange then
    let members ← flags.negateIf (negated != inverted) (flags.closeCase members)
    pure (members, rest)
  else none

/-- The kinds of edges of words that a name in braces selects. -/
def namedWordEdge? (flags : Flags) (name : String) : Option Assertion :=
  if name == "start" then some (.wordStart flags.word)
  else if name == "end" then some (.wordEnd flags.word)
  else if name == "start-half" then some (.noWordBefore flags.word)
  else if name == "end-half" then some (.noWordAfter flags.word)
  else none

def isEdgeNameChar (c : Char) : Bool :=
  c.isAlpha || c == '-'

/-- The edge of a word, if a name of one follows in braces; braces that do not
start with such a name are left for a repetition. -/
def readWordEdge (flags : Flags) : List Char → Option (Assertion × List Char)
  | '\x7b' :: rest =>
      match flags.skip rest with
      | [] => none
      | c :: others =>
          if isEdgeNameChar c then do
            let (name, rest) ← spanBrace flags.ignoreBlanks false (c :: others)
            let edge ← namedWordEdge? flags (String.ofList name)
            pure (edge, rest)
          else some (.wordEdge flags.word, '\x7b' :: rest)
  | chars => some (.wordEdge flags.word, chars)

/-- Letters that stand for a control character. -/
def controlEscape? : Char → Option Char
  | 'a' => some '\x07'
  | 'f' => some '\x0c'
  | 't' => some '\t'
  | 'n' => some '\n'
  | 'r' => some '\r'
  | 'v' => some '\x0b'
  | _ => none

/-- Reads what follows a backslash. -/
def readEscape (flags : Flags) : List Char → Option (Primitive × List Char)
  | [] => none
  | c :: rest =>
      if c.isDigit then none
      else if c = 'x' ∨ c = 'u' ∨ c = 'U' then
        readCodePoint flags (if c = 'x' then 2 else if c = 'u' then 4 else 8) rest
      else if c = 'p' ∨ c = 'P' then do
        let (members, rest) ← readPropertySet flags (c == 'P') rest
        pure (.set members, rest)
      else if let some members := flags.letterClass? c.toLower then do
        let members ← flags.negateIf c.isUpper members
        pure (.set members, rest)
      else if let some control := controlEscape? c then some (.literal control, rest)
      else if c = 'A' then some (.assertion .textStart, rest)
      else if c = 'z' then some (.assertion .textEnd, rest)
      else if c = 'B' then some (.assertion (.noWordEdge flags.word), rest)
      else if c = '<' then some (.assertion (.wordStart flags.word), rest)
      else if c = '>' then some (.assertion (.wordEnd flags.word), rest)
      else if c = 'b' then do
        let (edge, rest) ← readWordEdge flags rest
        pure (.assertion edge, rest)
      else if c.toNat < 0x80 ∧ !c.isAlpha then some (.literal c, rest)
      else none

end CallContract.Pattern
