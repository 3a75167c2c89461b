import SenderPolicy.Address.Reader
import SenderPolicy.Text.Blank
import SenderPolicy.Text.Composition
import SenderPolicy.Text.LetterCase
import SenderPolicy.Text.Printable

/-! Domain names: which texts are names, the form in which they are asked for, the cut to a length and the
form in which messages show them. -/

namespace SenderPolicy.Domain

open Text

/-! ### Valid names -/

/-- The text less one dot at its end. -/
def withoutFinalDot (s : List Char) : List Char :=
  if s.getLast? = some '.' then s.dropLast else s

/-- Whether a text has at least two labels of one to 63 characters, apart from a final dot. -/
def hasLabels (s : List Char) : Bool :=
  let labels := pieces (· == '.') (withoutFinalDot s)
  2 ≤ labels.length && labels.all fun label => 1 ≤ label.length && label.length ≤ 63

/-- As `hasLabels`, but a line end after the last label may be left out of account. -/
def hasLabelsUpToLineEnd (s : List Char) : Bool :=
  hasLabels s || (s.getLast? == some '\n' && hasLabels s.dropLast)

/-- Whether a text is a domain name: one to 255 characters, in labels, and no address. -/
def isValid (d : String) : Bool :=
  let s := d.toList
  0 < s.length && s.length ≤ 255 && hasLabelsUpToLineEnd s
    && !Address.isAddress (dropTrailing (· == '.') s)

/-! ### The form of names in questions -/

/-- Characters that take up no room: zero-width space, joiners, and the byte order mark. -/
def isZeroWidth (c : Char) : Bool :=
  (0x200B ≤ c.toNat && c.toNat ≤ 0x200D) || c.toNat == 0xFEFF

/-- The name in composed form, without zero-width characters, and then in lower case. -/
def normalized (d : String) : String :=
  lower (String.ofList ((composed d.toList).filter (!isZeroWidth ·)))

/-- The name without the dots at its end. -/
def withoutDots (d : String) : String :=
  String.ofList (dropTrailing (· == '.') d.toList)

/-- Whether a name ends in a dot and another name. -/
def isBelow (parent name : String) : Bool :=
  ('.' :: parent.toList).isSuffixOf name.toList

/-! ### Shorter names -/

/-- What stands behind the first dot from which on the text fits or holds no further dot. -/
def cutTo (limit : Int) : List Char → List Char
  | [] => []
  | c :: rest =>
    if c = '.' && ((rest.length : Int) ≤ limit || !rest.contains '.') then rest else cutTo limit rest

/-- The name without as many leading labels as needed to fit a length; the last label always stays. -/
def shortened (limit : Int) (d : String) : String :=
  let s := d.toList
  if (s.length : Int) ≤ limit || !s.contains '.' then d else String.ofList (cutTo limit s)

/-- The greatest length of an expanded name. -/
def maxLength : Int := 253

/-! ### Names in messages -/

/-- At most 64 characters of a name, those without a printed form left out. -/
def shown (d : String) : String :=
  let s := d.toList
  if s.isEmpty then "<empty>"
  else
    let s := if 64 < s.length then s.take 61 ++ ['.', '.', '.'] else s
    String.ofList (s.filter isPrintable)

end SenderPolicy.Domain
