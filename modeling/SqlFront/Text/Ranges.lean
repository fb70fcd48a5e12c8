/-!
# SqlFront.Text.Ranges

Sets of characters, written as lists of closed code point ranges. The tables of the character
classes are values of this type; membership is the only operation on them.
-/

namespace SqlFront
namespace Text

/-- A set of code points: the union of closed ranges `(first, last)`. -/
abbrev Ranges := List (Nat × Nat)

/-- The code point lies in one of the ranges. -/
def Ranges.covers (ranges : Ranges) (point : Nat) : Bool :=
  ranges.any fun range => range.1 ≤ point && point ≤ range.2

theorem Ranges.covers_iff {ranges : Ranges} {point : Nat} :
    ranges.covers point = true ↔ ∃ range ∈ ranges, range.1 ≤ point ∧ point ≤ range.2 := by
  simp [Ranges.covers]

end Text
end SqlFront
