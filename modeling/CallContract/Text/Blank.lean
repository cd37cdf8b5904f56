/-!
# Blank characters

Twenty-five characters are blank: the controls from tab to carriage return
and the next line control, and the space, line and paragraph separators.
Trimming removes them from the ends of a text.
-/

namespace CallContract.Text

def isBlank (c : Char) : Bool :=
  (0x09 ≤ c.toNat && c.toNat ≤ 0x0D) || c.toNat == 0x20 || c.toNat == 0x85 ||
    c.toNat == 0xA0 || c.toNat == 0x1680 || (0x2000 ≤ c.toNat && c.toNat ≤ 0x200A) ||
    c.toNat == 0x2028 || c.toNat == 0x2029 || c.toNat == 0x202F || c.toNat == 0x205F ||
    c.toNat == 0x3000

def trimStart (chars : List Char) : List Char :=
  chars.dropWhile isBlank

def trim (chars : List Char) : List Char :=
  (trimStart (trimStart chars).reverse).reverse

end CallContract.Text
