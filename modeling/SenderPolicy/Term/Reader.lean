import SenderPolicy.Term.Basic
import SenderPolicy.Text.Cut
import SenderPolicy.Text.Folded
import SenderPolicy.Text.LetterCase

/-! Reading terms. A directive is an optional sign, a mechanism and an optional value behind a colon or a
slash; a modifier is a name, an equals sign and a macro string. Case is ignored in names, and one line end
behind a term is overlooked. -/

namespace SenderPolicy

open Text

/-- The text less a line end at its end; none if a line end stands elsewhere. -/
def singleLine? (s : List Char) : Option (List Char) :=
  let line := if s.getLast? = some '\n' then s.dropLast else s
  if line.contains '\n' then none else some line

/-! ### Directives -/

/-- Splits off the sign of a directive. -/
def signAt : List Char → String × List Char
  | [] => ("", [])
  | c :: rest => if ['+', '-', '~', '?'].contains c then (String.singleton c, rest) else ("", c :: rest)

/-- Splits a value off its separator. -/
def valueAt : List Char → Option (Separator × String)
  | ':' :: rest => (singleLine? rest).map fun value => (.colon, String.ofList value)
  | '/' :: rest => (singleLine? rest).map fun value => (.slash, String.ofList value)
  | rest => if rest = [] || rest = ['\n'] then some (.absent, "") else none

/-- What stands for a mechanism at the start of a text, in lower case, with separator and value. -/
def mechanismAt (s : List Char) : Option (String × Separator × String) :=
  Mechanism.known.findSome? fun m => do
    let (taken, rest) ← takeFolded m.name.toList s
    let (separator, value) ← valueAt rest
    pure (lower (String.ofList taken), separator, value)

/-- Whether a mechanism may have a separator; a separator always comes with a value. -/
def Mechanism.allows (m : Mechanism) (separator : Separator) (value : String) : Bool :=
  (separator == .absent || value != "") && match m with
    | .all => separator == .absent
    | .incl | .exists | .ip4 | .ip6 => separator == .colon
    | .ptr => separator != .slash
    | .a | .mx | .unknown _ => true

/-- The directive that a term is, if it is one. -/
def Directive.ofText? (term : String) : Option Directive := do
  let (sign, s) := signAt term.toList
  let (name, separator, value) ← mechanismAt s
  let mechanism := Mechanism.ofName name
  if mechanism.allows separator value then
    some ⟨Qualifier.ofSign sign, mechanism, separator, value, term⟩
  else none

/-! ### Modifiers -/

/-- Characters of the name of a modifier behind its first letter. -/
def isNameChar (c : Char) : Bool :=
  isFoldedLetter c || c.isDigit || c == '_' || c == '.' || c == '-'

/-- Splits the name of a modifier off the text behind the equals sign. -/
def nameAt (s : List Char) : Option (List Char × List Char) :=
  if s.head?.any isFoldedLetter then
    match s.dropWhile isNameChar with
    | '=' :: rest => some (s.takeWhile isNameChar, rest)
    | _ => none
  else none

/-- The modifier that a term is, if it is one. -/
def Modifier.ofText? (term : String) : Option Modifier := do
  let (name, rest) ← nameAt term.toList
  let value ← singleLine? rest
  some ⟨lower (String.ofList name), String.ofList value, term⟩

/-! ### The shape of terms -/

/-- Whether a text without white space has the shape of a directive: the value may be missing behind its
separator, and any mechanism may have one. -/
def hasDirectiveShape (s : List Char) : Bool :=
  Mechanism.known.any fun m => match takeFolded m.name.toList (signAt s).2 with
    | some (_, rest) => rest.isEmpty || rest.head? == some ':' || rest.head? == some '/'
    | none => false

/-- Whether a text without white space has the shape of a modifier. -/
def hasModifierShape (s : List Char) : Bool := (nameAt s).isSome

end SenderPolicy
