import SenderPolicy.Text.LetterCase.Table
import SenderPolicy.Text.Printable

/-! Lower and upper case of texts in every script. Lower case looks at the neighbours of one letter only:
a capital sigma that ends a word becomes the final form. -/

namespace SenderPolicy.Text

/-- The image of a code point under the first run that covers it. -/
def mappedBy (runs : List (Nat × Nat × Nat × Nat)) (n : Nat) : Option Nat :=
  (runs.find? fun (first, last, step, _) => first ≤ n && n ≤ last && (n - first) % step == 0).map
    fun (first, _, _, image) => image + (n - first)

def isCased (c : Char) : Bool := inRanges casedRanges c.toNat

def isCaseIgnorable (c : Char) : Bool := inRanges caseIgnorableRanges c.toNat

/-- Whether a cased character is the first one met that the test does not pass over. -/
def meetsCased (s : List Char) : Bool :=
  (s.dropWhile isCaseIgnorable).head?.any isCased

/-- Whether a letter between two texts ends a word; the text before it is given backwards. -/
def endsWord (before after : List Char) : Bool :=
  meetsCased before && !meetsCased after

/-- The lower case of a character between two texts, the first given backwards. -/
def lowerChar (before : List Char) (c : Char) (after : List Char) : List Char :=
  let n := c.toNat
  if n < 0x80 then
    if 0x41 ≤ n && n ≤ 0x5A then [Char.ofNat (n + 0x20)] else [c]
  else if n = 0x3A3 then [if endsWord before after then 'ς' else 'σ']
  else if n = 0x130 then ['i', '\u0307']
  else [(mappedBy lowerRuns n).elim c Char.ofNat]

def lowerFrom (before : List Char) : List Char → List Char
  | [] => []
  | c :: after => lowerChar before c after ++ lowerFrom (c :: before) after

/-- The text in lower case. -/
def lower (s : String) : String :=
  String.ofList (lowerFrom [] s.toList)

/-- The upper case of a character, which may have up to three characters. -/
def upperChar (c : Char) : List Char :=
  let n := c.toNat
  if n < 0x80 then
    if 0x61 ≤ n && n ≤ 0x7A then [Char.ofNat (n - 0x20)] else [c]
  else match longUpper.lookup n with
    | some image => image.map Char.ofNat
    | none => [(mappedBy upperRuns n).elim c Char.ofNat]

/-- The text in upper case. -/
def upper (s : String) : String :=
  String.ofList (s.toList.flatMap upperChar)

end SenderPolicy.Text
