import SenderPolicy.Text.Printable.Table

/-! Which characters have a printed form. -/

namespace SenderPolicy.Text

/-- Whether a code point lies in one of some inclusive ranges. -/
def inRanges (ranges : List (Nat × Nat)) (n : Nat) : Bool :=
  ranges.any fun (first, last) => first ≤ n && n ≤ last

/-- Printed characters: all but controls, format marks, unassigned ones and separators other than the space. -/
def isPrintable (c : Char) : Bool :=
  let n := c.toNat
  if n < 0x7F then 0x20 ≤ n else !inRanges unprintableRanges n

end SenderPolicy.Text
