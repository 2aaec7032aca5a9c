/-!
White space as Unicode defines it, and trimming of text by it.
-/

set_option autoImplicit false

namespace Trivalent.Text

/-- The ranges of characters that have the property White_Space. -/
def blankRanges : List (Nat × Nat) :=
  [(0x09, 0x0D), (0x20, 0x20), (0x85, 0x85), (0xA0, 0xA0), (0x1680, 0x1680), (0x2000, 0x200A),
    (0x2028, 0x2029), (0x202F, 0x202F), (0x205F, 0x205F), (0x3000, 0x3000)]

def isBlank (char : Char) : Bool :=
  blankRanges.any fun range => range.1 ≤ char.toNat && char.toNat ≤ range.2

/-- The text without the blanks in front of it. -/
def trimStart (chars : List Char) : List Char :=
  chars.dropWhile isBlank

/-- The text without the blanks around it. -/
def trim (chars : List Char) : List Char :=
  (trimStart (trimStart chars).reverse).reverse

end Trivalent.Text
