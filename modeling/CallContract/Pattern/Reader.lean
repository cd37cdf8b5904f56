import CallContract.Pattern.SetReader
import CallContract.Text.LatestEdition

/-!
# Reading expressions

An expression is read from left to right.  The parts of the current branch and
the closed branches of the innermost open group are kept, and the same for
every group around it.  Flags set by a directive hold to the end of their
group, across its branches.  Whatever is not understood is refused, and so are
a repetition of nothing and an expression that is nested too deeply.
-/

namespace CallContract.Pattern

/-- The parts of an open group, last first. -/
structure Level where
  flags : Flags
  branches : List Expression
  parts : List Expression

structure Progress where
  current : Level
  enclosing : List Level
  names : List (List Char)

def sequenceOf : List Expression → Expression
  | [] => .empty
  | [part] => part
  | parts => .sequence parts

def Level.body (level : Level) : Expression :=
  let last := sequenceOf level.parts.reverse
  match level.branches with
  | [] => last
  | branches => .alternatives (last :: branches).reverse

def Level.add (level : Level) (part : Expression) : Level :=
  { level with parts := part :: level.parts }

def Progress.add (progress : Progress) (part : Expression) : Progress :=
  { progress with current := progress.current.add part }

/-- Replaces the last part by a repetition of it. -/
def Progress.repeatLast?
    (progress : Progress)
    (least : Nat)
    (most : Option Nat) : Option Progress :=
  match progress.current.parts with
  | [] => none
  | .empty :: _ => none
  | .directive :: _ => none
  | part :: others =>
      some { progress with
        current := { progress.current with parts := .repetition part least most :: others } }

def dropLazyMark : List Char → List Char
  | '?' :: rest => rest
  | chars => chars

/-- A count surrounded by blanks, and the rest. -/
def readCount? (chars : List Char) : Option (Nat × List Char) :=
  let start := Text.trimStart chars
  let digits := start.takeWhile Char.isDigit
  let count := digits.foldl (fun value c => value * 10 + (c.toNat - '0'.toNat)) 0
  if digits = [] ∨ 0x100000000 ≤ count then none
  else some (count, Text.trimStart (start.dropWhile Char.isDigit))

/-- The least and the largest count that stand between braces. -/
def readBounds? (content : List Char) : Option (Nat × Option Nat) := do
  let (least, rest) ← readCount? content
  match rest with
  | [] => pure (least, some least)
  | [','] => pure (least, none)
  | ',' :: rest => do
      let (most, rest) ← readCount? rest
      if rest = [] ∧ least ≤ most then pure (least, some most) else none
  | _ => none

def isNameStart (c : Char) : Bool :=
  c == '_' || Text.isLatestAlphabetic c

def isNameChar (c : Char) : Bool :=
  c == '_' || c == '.' || c == '[' || c == ']' || Text.isLatestAlphabetic c ||
    (Text.latestCategory c).isNumber

/-- The name of a group up to its closing angle. -/
def readGroupName? (names : List (List Char)) (chars : List Char) :
    Option (List Char × List Char) :=
  match chars.takeWhile (· != '>'), chars.dropWhile (· != '>') with
  | first :: others, _ :: rest =>
      if isNameStart first ∧ others.all isNameChar ∧ (first :: others) ∉ names then
        some (first :: others, rest)
      else none
  | _, _ => none

def Flags.with? (flags : Flags) (enabled : Bool) : Char → Option Flags
  | 'i' => some { flags with ignoreCase := enabled }
  | 'm' => some { flags with multiLine := enabled }
  | 's' => some { flags with dotAll := enabled }
  | 'U' => some flags
  | 'u' => some { flags with wholeRange := enabled }
  | 'R' => some { flags with anyNewline := enabled }
  | 'x' => some { flags with ignoreBlanks := enabled }
  | _ => none

/-- The flags up to a colon or a closing parenthesis, each at most once; those
behind a hyphen are switched off.  Returns also whether any flag was given and
whether the group goes on behind a colon. -/
def readFlags? (seen : List Char) (enabled : Bool) (flags : Flags) :
    List Char → Option ((Flags × Bool × Bool) × List Char)
  | [] => none
  | c :: rest =>
      if c = ':' ∨ c = ')' then
        if seen.head? = some '-' then none
        else some ((flags, seen != [], c == ':'), rest)
      else if c ∈ seen then none
      else if c = '-' then readFlags? (c :: seen) false flags rest
      else
        match flags.with? enabled c with
        | some flags => readFlags? (c :: seen) enabled flags rest
        | none => none

def Progress.openGroup (progress : Progress) (flags : Flags) : Progress :=
  { progress with
    current := ⟨flags, [], []⟩
    enclosing := progress.current :: progress.enclosing }

def Progress.closeGroup? (progress : Progress) : Option Progress :=
  match progress.enclosing with
  | [] => none
  | level :: others =>
      some { progress with
        current := level.add (.group progress.current.body)
        enclosing := others }

/-- Reads what follows an opening parenthesis. -/
def Progress.readGroup? (progress : Progress) (chars : List Char) :
    Option (Progress × List Char) :=
  let flags := progress.current.flags
  match flags.skip chars with
  | '?' :: '=' :: _ => none
  | '?' :: '!' :: _ => none
  | '?' :: '<' :: '=' :: _ => none
  | '?' :: '<' :: '!' :: _ => none
  | '?' :: 'P' :: '<' :: rest => named flags rest
  | '?' :: '<' :: rest => named flags rest
  | '?' :: rest =>
      match readFlags? [] true flags rest with
      | none => none
      | some ((flags, _, true), rest) => some (progress.openGroup flags, rest)
      | some ((_, false, false), _) => none
      | some ((flags, true, false), rest) =>
          some ({ progress with
            current := { progress.current with flags := flags }.add .directive }, rest)
  | rest => some (progress.openGroup flags, rest)
where
  named (flags : Flags) (chars : List Char) : Option (Progress × List Char) :=
    (readGroupName? progress.names chars).map fun found =>
      ({ progress with names := found.1 :: progress.names }.openGroup flags, found.2)

def Flags.anchor (flags : Flags) (atStart : Bool) : Assertion :=
  match flags.multiLine, flags.anyNewline, atStart with
  | false, _, true => .textStart
  | false, _, false => .textEnd
  | true, false, true => .lineStart
  | true, false, false => .lineEnd
  | true, true, true => .anyLineStart
  | true, true, false => .anyLineEnd

def Flags.dot? (flags : Flags) : Option CharSet :=
  if !flags.wholeRange then none
  else if flags.dotAll then some fun _ => true
  else if flags.anyNewline then some fun c => c != '\n' && c != '\r'
  else some fun c => c != '\n'

def Flags.expressionOf? (flags : Flags) : Primitive → Option Expression
  | .literal c => some (.set (flags.literalSet c) 0)
  | .byte c => if flags.knows c then some (.set (flags.literalSet c) 0) else none
  | .set members => some (.set members 0)
  | .assertion condition => some (.assertion condition)

/-- Reads on from a character that is not skipped. -/
def Progress.read? (progress : Progress) (c : Char) (rest : List Char) :
    Option (Progress × List Char) :=
  let flags := progress.current.flags
  match c with
  | '(' => progress.readGroup? rest
  | ')' => progress.closeGroup?.map fun progress => (progress, rest)
  | '|' =>
      some ({ progress with
        current := ⟨flags, sequenceOf progress.current.parts.reverse :: progress.current.branches,
          []⟩ }, rest)
  | '[' => do
      let ((members, depth), rest) ← readBracketed flags (2 * rest.length + 2) rest
      pure (progress.add (.set members depth), rest)
  | '?' => (progress.repeatLast? 0 (some 1)).map fun progress => (progress, dropLazyMark rest)
  | '*' => (progress.repeatLast? 0 none).map fun progress => (progress, dropLazyMark rest)
  | '+' => (progress.repeatLast? 1 none).map fun progress => (progress, dropLazyMark rest)
  | '\x7b' => do
      let (content, rest) ← spanBrace flags.ignoreBlanks false rest
      let (least, most) ← readBounds? content
      let progress ← progress.repeatLast? least most
      pure (progress, dropLazyMark (flags.skip rest))
  | '\\' => do
      let (primitive, rest) ← readEscape flags rest
      let part ← flags.expressionOf? primitive
      pure (progress.add part, rest)
  | '.' => flags.dot?.map fun members => (progress.add (.set members 0), rest)
  | '^' => some (progress.add (.assertion (flags.anchor true)), rest)
  | '$' => some (progress.add (.assertion (flags.anchor false)), rest)
  | c => some (progress.add (.set (flags.literalSet c) 0), rest)

/-- Reads to the end; every step consumes a character. -/
def Progress.finish? : Nat → Progress → List Char → Option Expression
  | 0, _, _ => none
  | steps + 1, progress, chars =>
      match progress.current.flags.skip chars with
      | [] => if progress.enclosing.isEmpty then some progress.current.body else none
      | c :: rest =>
          match progress.read? c rest with
          | some (progress, rest) => finish? steps progress rest
          | none => none

/-- An expression may be nested this deeply. -/
def maxDepth : Nat :=
  250

def Expression.ofSource? (source : String) : Option Expression :=
  let chars := source.toList
  match Progress.finish? (chars.length + 1) ⟨⟨.standard, [], []⟩, [], []⟩ chars with
  | some expression => if expression.depth ≤ maxDepth then some expression else none
  | none => none

end CallContract.Pattern
