import SenderPolicy.Text.Cut

/-! White space of any script, trimming, and the words of a text. -/

namespace SenderPolicy.Text

/-- White space: the ASCII layout and separator controls, the next-line mark, and every space, line or
paragraph separator. -/
def isBlank (c : Char) : Bool :=
  let n := c.toNat
  (9 ≤ n && n ≤ 13) || (28 ≤ n && n ≤ 32) || n == 0x85 || n == 0xA0 || n == 0x1680
    || (0x2000 ≤ n && n ≤ 0x200A) || n == 0x2028 || n == 0x2029 || n == 0x202F || n == 0x205F || n == 0x3000

/-- The text without white space at either end. -/
def trimmed (s : String) : String :=
  String.ofList (stripped isBlank s.toList)

/-- The longest pieces of a text that hold no white space, each with the position at which it starts. -/
def placedWords (position : Nat) : List Char → List (Nat × List Char)
  | [] => []
  | c :: rest =>
    let later := placedWords (position + 1) rest
    if isBlank c then later
    else if rest.head?.all isBlank then (position, [c]) :: later
    else later.modifyHead fun (_, word) => (position, c :: word)

/-- The longest pieces of a text that hold no white space. -/
def words (s : List Char) : List (List Char) :=
  (placedWords 0 s).map (·.2)

end SenderPolicy.Text
