import CallContract.Contract.Descriptor
import CallContract.Table

/-!
# Signatures

A signature is a checked contract: descriptors for positions, for keywords in
the order in which they were written, and for the result.
-/

namespace CallContract

structure Signature where
  positional : List Descriptor
  keywords : Table Symbol Descriptor
  result : Descriptor

namespace Signature

def keywordText (keyword : Symbol × Descriptor) : String :=
  keyword.1.name ++ ": " ++ keyword.2.text

def keywordsText (signature : Signature) : String :=
  "\x7b" ++ Text.commaSeparated (signature.keywords.map keywordText) ++ "\x7d"

/-- The argument side as it is written: a list of which keywords are the last
item, or the keywords alone. -/
def argumentText (signature : Signature) : String :=
  match signature.positional, signature.keywords with
  | [], _ :: _ => signature.keywordsText
  | positional, [] => "[" ++ Text.commaSeparated (Descriptor.texts positional) ++ "]"
  | positional, _ :: _ =>
      "[" ++ Text.commaSeparated (Descriptor.texts positional ++ [signature.keywordsText]) ++ "]"

def resultText (signature : Signature) : String :=
  signature.result.text

def text (signature : Signature) : String :=
  signature.argumentText ++ " => " ++ signature.resultText

/-- Equality of signatures; the order of keywords does not count. -/
def equal (a b : Signature) : Bool :=
  Descriptor.equalItems a.positional b.positional &&
    a.keywords.length == b.keywords.length &&
    (a.keywords.all fun keyword =>
      (b.keywords.get? keyword.1).any fun descriptor => keyword.2.equal descriptor) &&
    a.result.equal b.result

end Signature

end CallContract
