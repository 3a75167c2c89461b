/-! Comparing letters with the letters of ASCII when case is ignored. A few letters of other scripts are
equal to an ASCII letter in this sense: the two Turkish forms of i, the long s and the sign for kelvin. -/

namespace SenderPolicy.Text

/-- Whether a character is a lower-case ASCII letter when case is ignored. -/
def foldsTo (letter c : Char) : Bool :=
  c.toLower == letter || (letter == 'i' && (c == 'İ' || c == 'ı')) || (letter == 's' && c == 'ſ')
    || (letter == 'k' && c == 'K')

/-- Whether a character is some ASCII letter when case is ignored. -/
def isFoldedLetter (c : Char) : Bool :=
  c.isAlpha || c == 'İ' || c == 'ı' || c == 'ſ' || c == 'K'

/-- Splits a text that starts with a word of lower-case letters and digits when case is ignored into what
stands there for the word and the rest. -/
def takeFolded : (word : List Char) → List Char → Option (List Char × List Char)
  | [], s => some ([], s)
  | _ :: _, [] => none
  | w :: word, c :: rest =>
    if foldsTo w c then (takeFolded word rest).map fun (taken, rest) => (c :: taken, rest) else none

end SenderPolicy.Text
