import CallContract.Text.GeneralCategory
import CallContract.Text.LetterProperty

/-!
# The latest edition of the character database

Patterns know the characters of edition 16, to which the tables of categories
and properties belong.  Texts are quoted, put in upper case and taken as names
after edition 17, which adds characters and leaves the properties that are
asked for here unchanged for all others.
-/

namespace CallContract.Text

/-- The categories of the characters that edition 17 adds. -/
def addedCategoryRuns : String :=
  "2191CnLo972CnLo127CnLo3570Cn15Mn2Cn12Mn1493CnSc2772CnSo31799CnLuLl2CnLuCnLu28CnLm21457Cn16So44
  5Cn2So54Cn7So2929Cn26Lo1387CnLm2Lo8CnPo8So33Cn2Mn3172CnMnMc3MnMcMnMc584Cn41LoLm2Lo4Cn10Nd20662
  Cn25Lu2Cn25Ll286Cn2Lm3Nl6145Cn8Lo1289Cn22Lo97Cn115Lo16135Cn3So445Cn23So15Cn16SoSm6095Cn31LoCn3
  LoMn2LoMn7Lo2Mn5LoMn8CnLoLm4056CnSo158Cn4So341Cn9Sm379Cn4So50CnSo3CnSo57CnSo4CnSo28CnSo4CnSo26
  6CnSo47935Cn6Lo5986Cn12Lo21762Cn4298Lo904070Cn"

def addedCategoryTable : RunTable GeneralCategory :=
  .ofRuns ((readRuns 2 addedCategoryRuns).map fun run =>
    (run.1, (GeneralCategory.ofAbbreviation? run.2).getD .unassigned))

def latestCategory (c : Char) : GeneralCategory :=
  match generalCategory c with
  | .unassigned => (addedCategoryTable.find? c.toNat).getD .unassigned
  | category => category

/-- Added marks that are vowel signs, and so alphabetic, in runs from a first to
a last code point. -/
def addedVowelSigns : List (Nat × Nat) :=
  [(0x10EFA, 0x10EFB), (0x11B60, 0x11B67), (0x1E6E3, 0x1E6E3), (0x1E6E6, 0x1E6E6),
    (0x1E6EE, 0x1E6EF), (0x1E6F5, 0x1E6F5)]

def isAddedVowelSign (c : Char) : Bool :=
  addedVowelSigns.any fun run => run.1 ≤ c.toNat && c.toNat ≤ run.2

/-- Letters, letter numbers and the marks and symbols that count as letters. -/
def isLatestAlphabetic (c : Char) : Bool :=
  isAlphabetic c || (latestCategory c).isLetter || isAddedVowelSign c ||
    latestCategory c == .letterNumber

/-- Marks that extend the character before them: all that do not take up space
among those that edition 17 adds. -/
def isExtendingMark (c : Char) : Bool :=
  (latestCategory c).isMark &&
    (isGraphemeExtender c || latestCategory c == .nonspacingMark)

end CallContract.Text
