/-! Macros: a letter that names a fact of the check, and how the text of the fact is cut up, turned round,
shortened and escaped. -/

namespace SenderPolicy

/-- What a macro stands for. -/
inductive Letter where
  | sender
  | localPart
  | senderDomain
  | domain
  | address
  | confirmedName
  | family
  | helo
  | client
  | receiver
  | time
  /-- A letter that is equal to a known one only when case is ignored; it stands for the time. -/
  | variant (text : String)
deriving DecidableEq, Repr

namespace Letter

/-- The letters as they are written in lower case. -/
def all : List (Char × Letter) :=
  [('s', sender), ('l', localPart), ('o', senderDomain), ('d', domain), ('i', address), ('p', confirmedName),
   ('v', family), ('h', helo), ('c', client), ('r', receiver), ('t', time)]

def text : Letter → String
  | sender => "s"
  | localPart => "l"
  | senderDomain => "o"
  | domain => "d"
  | address => "i"
  | confirmedName => "p"
  | family => "v"
  | helo => "h"
  | client => "c"
  | receiver => "r"
  | time => "t"
  | variant text => text

/-- The letter with a text, whatever the text is. -/
def ofText (text : String) : Letter :=
  match text.toList with
  | [c] => (all.lookup c).getD (variant text)
  | _ => variant text

/-- Letters that only an explanation may use. -/
def explanationOnly : Letter → Bool
  | client | receiver | time => true
  | _ => false

end Letter

/-- A macro: which fact, how many of its last parts, whether in reverse order, where the parts are cut, and
whether the result is percent-encoded. -/
structure Macro where
  letter : Letter
  digits : Option Int
  reverse : Bool
  delimiters : String
  escaped : Bool
deriving DecidableEq, Repr

/-- A piece of a macro string: text taken as it is, or a macro. -/
inductive Token where
  | literal (text : String)
  | expansion (m : Macro)
deriving DecidableEq, Repr

end SenderPolicy
