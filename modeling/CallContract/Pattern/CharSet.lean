import CallContract.Text.BinaryProperty
import CallContract.Text.Blank
import CallContract.Text.BreakProperty
import CallContract.Text.CaseMapping
import CallContract.Text.Edition
import CallContract.Text.GeneralCategory
import CallContract.Text.ScriptExtension

/-!
# Sets of characters

A pattern asks of a single character whether it belongs to a set.  Sets are
given by ranges, by the classes of words, digits and blanks, by the named
classes of ASCII, or by a property of characters, and they are combined and
closed under differences of case.
-/

namespace CallContract.Pattern

abbrev CharSet : Type :=
  Char → Bool

namespace CharSet

def single (member : Char) : CharSet :=
  fun c => c == member

def range (first last : Char) : CharSet :=
  fun c => first.toNat ≤ c.toNat && c.toNat ≤ last.toNat

def none : CharSet :=
  fun _ => false

def union (a b : CharSet) : CharSet :=
  fun c => a c || b c

def intersection (a b : CharSet) : CharSet :=
  fun c => a c && b c

def difference (a b : CharSet) : CharSet :=
  fun c => a c && !b c

def symmetricDifference (a b : CharSet) : CharSet :=
  fun c => a c != b c

def complement (a : CharSet) : CharSet :=
  fun c => !a c

/-- The characters that differ in case only from a member. -/
def caseClosure (a : CharSet) : CharSet :=
  fun c => a c || (Text.caseVariants c).any a

/-- The same with the letters of ASCII alone. -/
def asciiCaseClosure (a : CharSet) : CharSet :=
  fun c => a c || a c.toLower || a c.toUpper

def isAscii : CharSet :=
  fun c => c.toNat < 0x80

def asciiWord : CharSet :=
  fun c => c.isAlphanum || c == '_'

def asciiBlank : CharSet :=
  fun c => (0x09 ≤ c.toNat && c.toNat ≤ 0x0D) || c == ' '

def digit : CharSet :=
  fun c => Text.generalCategory c == .decimalNumber

def word : CharSet :=
  fun c =>
    if c.toNat < 0x80 then asciiWord c
    else
      Text.isAlphabetic c || (Text.generalCategory c).isMark ||
        Text.generalCategory c == .decimalNumber ||
        Text.generalCategory c == .connectorPunctuation ||
        c.toNat == 0x200C || c.toNat == 0x200D

/-- The named classes of ASCII. -/
def asciiClass? : String → Option CharSet
  | "alnum" => some Char.isAlphanum
  | "alpha" => some Char.isAlpha
  | "ascii" => some isAscii
  | "blank" => some fun c => c == ' ' || c == '\t'
  | "cntrl" => some fun c => c.toNat < 0x20 || c.toNat == 0x7F
  | "digit" => some Char.isDigit
  | "graph" => some fun c => 0x21 ≤ c.toNat && c.toNat ≤ 0x7E
  | "lower" => some Char.isLower
  | "print" => some fun c => 0x20 ≤ c.toNat && c.toNat ≤ 0x7E
  | "punct" => some fun c => 0x21 ≤ c.toNat && c.toNat ≤ 0x7E && !c.isAlphanum
  | "space" => some asciiBlank
  | "upper" => some Char.isUpper
  | "word" => some asciiWord
  | "xdigit" => some fun c =>
      c.isDigit || ('a' ≤ c && c ≤ 'f') || ('A' ≤ c && c ≤ 'F')
  | _ => .none

def ofCategory (holds : Text.GeneralCategory → Bool) : CharSet :=
  fun c => holds (Text.generalCategory c)

/-- Groups of categories, and categories, by their names in lower case and
without separators. -/
def categoryNames : List (List String × (Text.GeneralCategory → Bool)) :=
  [(["any"], fun _ => true),
    (["assigned"], (· != .unassigned)),
    (["l", "letter"], (·.isLetter)),
    (["lc", "casedletter"], (·.isCasedLetter)),
    (["lu", "uppercaseletter"], (· == .uppercaseLetter)),
    (["ll", "lowercaseletter"], (· == .lowercaseLetter)),
    (["lt", "titlecaseletter"], (· == .titlecaseLetter)),
    (["lm", "modifierletter"], (· == .modifierLetter)),
    (["lo", "otherletter"], (· == .otherLetter)),
    (["m", "mark", "combiningmark"], (·.isMark)),
    (["mn", "nonspacingmark"], (· == .nonspacingMark)),
    (["mc", "spacingmark"], (· == .spacingMark)),
    (["me", "enclosingmark"], (· == .enclosingMark)),
    (["n", "number"], (·.isNumber)),
    (["nd", "decimalnumber", "digit"], (· == .decimalNumber)),
    (["nl", "letternumber"], (· == .letterNumber)),
    (["no", "othernumber"], (· == .otherNumber)),
    (["p", "punctuation", "punct"], (·.isPunctuation)),
    (["pc", "connectorpunctuation"], (· == .connectorPunctuation)),
    (["pd", "dashpunctuation"], (· == .dashPunctuation)),
    (["ps", "openpunctuation"], (· == .openPunctuation)),
    (["pe", "closepunctuation"], (· == .closePunctuation)),
    (["pi", "initialpunctuation"], (· == .initialPunctuation)),
    (["pf", "finalpunctuation"], (· == .finalPunctuation)),
    (["po", "otherpunctuation"], (· == .otherPunctuation)),
    (["s", "symbol"], (·.isSymbol)),
    (["sm", "mathsymbol"], (· == .mathSymbol)),
    (["sc", "currencysymbol"], (· == .currencySymbol)),
    (["sk", "modifiersymbol"], (· == .modifierSymbol)),
    (["so", "othersymbol"], (· == .otherSymbol)),
    (["z", "separator"], (·.isSeparator)),
    (["zs", "spaceseparator"], (· == .spaceSeparator)),
    (["zl", "lineseparator"], (· == .lineSeparator)),
    (["zp", "paragraphseparator"], (· == .paragraphSeparator)),
    (["c", "other"], (·.isOther)),
    (["cc", "control", "cntrl"], (· == .control)),
    (["cf", "format"], (· == .format)),
    (["co", "privateuse"], (· == .privateUse)),
    (["cn", "unassigned"], (· == .unassigned))]

def category? (name : String) : Option CharSet :=
  if name == "ascii" then some isAscii
  else (categoryNames.find? fun entry => entry.1.contains name).map fun entry => ofCategory entry.2

/-- The form in which names of properties are compared: without a leading
`is`, without spaces, underscores and hyphens, and in lower case. -/
def normalizedName (chars : List Char) : String :=
  let lowered := chars.map Char.toLower
  let (strippedIs, rest) :=
    match lowered with
    | 'i' :: 's' :: rest => (true, rest)
    | rest => (false, rest)
  let kept := rest.filter fun c => c.toNat < 0x80 && c != ' ' && c != '_' && c != '-'
  if strippedIs && kept == ['c'] then "isc" else String.ofList kept

/-- The code of the script with a name. -/
def scriptCode? (name : String) : Option String :=
  (Text.scriptNames.find? fun entry =>
    normalizedName entry.1.toList == name || normalizedName entry.2.toList == name).map Prod.fst

def script? (name : String) : Option CharSet :=
  (scriptCode? name).map fun code c => Text.script c == code

/-- The characters that a script uses, alone or together with others. -/
def scriptUse? (name : String) : Option CharSet :=
  (scriptCode? name).map fun code c => (Text.scriptsOf c).contains code

def edition? (name : String) : Option CharSet :=
  (Text.editionNamed? name).map Text.isInEdition

def breakClass? (property : Text.BreakProperty) (name : String) : Option CharSet :=
  (property.class? name).map property.holds

/-- A set named by a property that is held or not, by a category or by a
script.  Three abbreviations name a category although a property has them. -/
def named? (chars : List Char) : Option CharSet :=
  let name := normalizedName chars
  let property :=
    if name == "cf" || name == "sc" || name == "lc" then .none
    else (Text.BinaryProperty.named? name).map fun property => property.table.holds
  property.or ((category? name).or (script? name))

/-- A set named by a property and one of its values. -/
def valued? (property value : List Char) : Option CharSet :=
  let name := normalizedName property
  let value := normalizedName value
  match name with
  | "gc" | "generalcategory" => category? value
  | "sc" | "script" => script? value
  | "scx" | "scriptextensions" => scriptUse? value
  | "age" => edition? value
  | name => (Text.BreakProperty.named? name).bind (breakClass? · value)

end CharSet

end CallContract.Pattern
