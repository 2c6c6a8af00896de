/-!
# Blank characters

The characters with the Unicode property `White_Space`, which is wider than core's
`Char.isWhitespace`, and texts made of nothing else.
-/

namespace Restage.Text

/-- The code points with the property, as inclusive ranges. -/
def blankRanges : List (Nat × Nat) :=
  [(0x9, 0xD), (0x20, 0x20), (0x85, 0x85), (0xA0, 0xA0), (0x1680, 0x1680), (0x2000, 0x200A),
    (0x2028, 0x2029), (0x202F, 0x202F), (0x205F, 0x205F), (0x3000, 0x3000)]

def isBlankChar (c : Char) : Bool :=
  blankRanges.any fun (low, high) => low ≤ c.toNat && c.toNat ≤ high

/-- Whether a text holds nothing but blanks. -/
def isBlank (text : String) : Bool := text.toList.all isBlankChar

end Restage.Text
