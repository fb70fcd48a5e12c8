import SqlFront.Text.Ranges

/-!
# SqlFront.Text.Blank

The Unicode 17 property White_Space. Of the ASCII control characters only U+0009 to U+000D have it.
-/

namespace SqlFront
namespace Text

/-- The code points with the property, in increasing order. -/
def blankRanges : Ranges :=
  [(0x9, 0xD), (0x20, 0x20), (0x85, 0x85), (0xA0, 0xA0), (0x1680, 0x1680), (0x2000, 0x200A),
   (0x2028, 0x2029), (0x202F, 0x202F), (0x205F, 0x205F), (0x3000, 0x3000)]

/-- A white space character: it separates tokens and is part of none, quoted literals apart. -/
def isBlank (c : Char) : Bool := blankRanges.covers c.toNat

/-- The text without the blanks at its two ends. -/
def trim (cs : List Char) : List Char :=
  (((cs.dropWhile isBlank).reverse).dropWhile isBlank).reverse

end Text
end SqlFront
