import CallContract.Pattern.Escape

/-!
# Reading sets in brackets

Between brackets stand characters, ranges, escapes, classes of ASCII and
further sets in brackets.  Neighbours are united; two sets may be intersected,
subtracted or taken apart symmetrically, from left to right.  A caret behind
the opening bracket leaves the listed characters out.
-/

namespace CallContract.Pattern

inductive SetOperator
  | intersection
  | difference
  | symmetricDifference

def SetOperator.apply : SetOperator → CharSet → CharSet → CharSet
  | .intersection => CharSet.intersection
  | .difference => CharSet.difference
  | .symmetricDifference => CharSet.symmetricDifference

/-- The sets between brackets that have been read: those united since the last
operator, their number and depth, and the operand of that operator. -/
structure OpenSet where
  members : CharSet
  count : Nat
  depth : Nat
  operand : Option (SetOperator × CharSet × Nat)

def OpenSet.empty : OpenSet :=
  ⟨CharSet.none, 0, 0, none⟩

def OpenSet.add (openSet : OpenSet) (members : CharSet) (depth : Nat) : OpenSet :=
  { openSet with
    members := openSet.members.union members
    count := openSet.count + 1
    depth := max openSet.depth depth }

/-- The value of what has been read, with its depth. -/
def OpenSet.value (flags : Flags) (openSet : OpenSet) : CharSet × Nat :=
  let depth := if openSet.count ≤ 1 then openSet.depth else openSet.depth + 1
  match openSet.operand with
  | none => (openSet.members, depth)
  | some (operator, left, leftDepth) =>
      (operator.apply (flags.closeCase left) (flags.closeCase openSet.members),
        max leftDepth depth + 1)

def OpenSet.operate (flags : Flags) (operator : SetOperator) (openSet : OpenSet) : OpenSet :=
  let (members, depth) := openSet.value flags
  ⟨CharSet.none, 0, 0, some (operator, members, depth)⟩

/-- A class of ASCII between `[:` and `:]`, read behind its first bracket. -/
def readAsciiClass? (flags : Flags) : List Char → Option (CharSet × List Char)
  | ':' :: rest =>
      let (negated, rest) :=
        match rest with
        | '^' :: rest => (true, rest)
        | rest => (false, rest)
      match rest.dropWhile (· != ':') with
      | ':' :: ']' :: after => do
          let members ← CharSet.asciiClass? (String.ofList (rest.takeWhile (· != ':')))
          let members ← flags.negateIf negated (flags.closeCase members)
          pure (members, after)
      | _ => none
  | _ => none

/-- Whether brackets hold the name of a class of ASCII. -/
def isAsciiClass : List Char → Bool
  | ':' :: rest => (readAsciiClass? Flags.standard (':' :: rest)).isSome
  | _ => false

def readSetPrimitive (flags : Flags) : List Char → Option (Primitive × List Char)
  | [] => none
  | '\\' :: rest => readEscape flags rest
  | c :: rest => some (.literal c, rest)

def Primitive.char? : Primitive → Option Char
  | .literal c => some c
  | .byte c => some c
  | .set _ => none
  | .assertion _ => none

def Flags.setItem? (flags : Flags) : Primitive → Option CharSet
  | .set members => some members
  | primitive =>
      match primitive.char? with
      | some c => if flags.knows c then some (CharSet.single c) else none
      | none => none

/-- The ends of a range are characters in increasing order. -/
def Flags.setRange? (flags : Flags) (first last : Primitive) : Option CharSet :=
  match first.char?, last.char? with
  | some first, some last =>
      if first.toNat ≤ last.toNat ∧ flags.knows last then some (CharSet.range first last)
      else none
  | _, _ => none

/-- The character ahead, behind blanks where they are skipped.  The mark of a
comment is passed over with them, but not the text of the comment. -/
def Flags.ahead? (flags : Flags) (chars : List Char) : Option Char :=
  if flags.ignoreBlanks then
    match chars.dropWhile Text.isBlank with
    | '#' :: rest => (rest.dropWhile Text.isBlank).head?
    | rest => rest.head?
  else chars.head?

/-- Whether a hyphen joins two ends of a range: one that has the closing bracket
or another hyphen ahead does not. -/
def isRangeHyphen (flags : Flags) : List Char → Bool
  | '-' :: rest => flags.ahead? rest != some ']' && flags.ahead? rest != some '-'
  | _ => false

def readSetItem (flags : Flags) (chars : List Char) : Option (CharSet × List Char) := do
  let (first, rest) ← readSetPrimitive flags chars
  let rest := flags.skip rest
  if rest = [] then none
  else if isRangeHyphen flags rest then
    let (last, rest) ← readSetPrimitive flags (flags.skip (rest.drop 1))
    let members ← flags.setRange? first last
    pure (members, rest)
  else
    let members ← flags.setItem? first
    pure (members, rest)

/-- The hyphens at the start of a set stand for themselves. -/
def leadingHyphens (flags : Flags) : Nat → List Char → OpenSet → OpenSet × List Char
  | 0, chars, openSet => (openSet, chars)
  | steps + 1, chars, openSet =>
      match chars with
      | '-' :: rest =>
          leadingHyphens flags steps (flags.skip rest) (openSet.add (CharSet.single '-') 0)
      | chars => (openSet, chars)

/-- What stands before the first ordinary item of a set: the hyphens, or else a
closing bracket, which stands for itself there. -/
def readSetStart (flags : Flags) (chars : List Char) : OpenSet × List Char :=
  let (openSet, rest) := leadingHyphens flags chars.length chars .empty
  match openSet.count, rest with
  | 0, ']' :: rest => (openSet.add (CharSet.single ']') 0, flags.skip rest)
  | _, rest => (openSet, rest)

mutual

/-- Reads a set behind its opening bracket.  Every step consumes a character. -/
def readBracketed (flags : Flags) : Nat → List Char → Option ((CharSet × Nat) × List Char)
  | 0, _ => none
  | steps + 1, chars => do
      let chars := flags.skip chars
      let (negated, chars) :=
        match chars with
        | '^' :: rest => (true, flags.skip rest)
        | rest => (false, rest)
      let (openSet, rest) := readSetStart flags chars
      let ((members, depth), rest) ← readSetItems flags steps openSet rest
      let members ← flags.negateIf negated (flags.closeCase members)
      pure ((members, depth + 1), rest)

def readSetItems (flags : Flags) :
    Nat → OpenSet → List Char → Option ((CharSet × Nat) × List Char)
  | 0, _, _ => none
  | steps + 1, openSet, chars =>
      match flags.skip chars with
      | [] => none
      | ']' :: rest => some (openSet.value flags, rest)
      | '[' :: rest =>
          if isAsciiClass rest then do
            let (members, rest) ← readAsciiClass? flags rest
            readSetItems flags steps (openSet.add members 0) rest
          else do
            let ((members, depth), rest) ← readBracketed flags steps rest
            readSetItems flags steps (openSet.add members depth) rest
      | '&' :: '&' :: rest => readSetItems flags steps (openSet.operate flags .intersection) rest
      | '-' :: '-' :: rest => readSetItems flags steps (openSet.operate flags .difference) rest
      | '~' :: '~' :: rest =>
          readSetItems flags steps (openSet.operate flags .symmetricDifference) rest
      | c :: rest => do
          let (members, rest) ← readSetItem flags (c :: rest)
          readSetItems flags steps (openSet.add members 0) rest

end

end CallContract.Pattern
