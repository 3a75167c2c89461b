import SenderPolicy.Macro.Basic
import SenderPolicy.Text.Cut
import SenderPolicy.Text.Percent

/-! What a macro does to the text of its fact: cut at the delimiters, turn round, keep the last parts, join
with dots, encode. -/

namespace SenderPolicy.Macro

open Text

/-- The last parts of a list. A count of zero keeps all, and a negative one drops as many from the front. -/
def lastParts (count : Int) (parts : List (List Char)) : List (List Char) :=
  if count < parts.length then
    if 0 < count then parts.drop (parts.length - count.toNat) else parts.drop (-count).toNat
  else parts

/-- The parts of a text that a macro keeps, in the order in which it joins them. -/
def keptParts (m : Macro) (s : List Char) : List (List Char) :=
  let delimiters := if m.delimiters = "" then ['.'] else m.delimiters.toList
  let parts := pieces delimiters.contains s
  let parts := if m.reverse then parts.reverse else parts
  match m.digits with
  | some count => lastParts count parts
  | none => parts

/-- The text of a macro, given the text of its fact. -/
def transform (m : Macro) (value : String) : String :=
  let s := joined ['.'] (m.keptParts value.toList)
  String.ofList (if m.escaped then percentEncoded s else s)

end SenderPolicy.Macro
