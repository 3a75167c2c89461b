import SenderPolicy.Term.Basic
import SenderPolicy.Text.Blank

/-! The header line that records a check in a message. -/

namespace SenderPolicy

open Text

/-- The identities of a client that are checked. -/
inductive Identity where
  | mailfrom
  | helo
deriving DecidableEq, Repr

def Identity.text : Identity → String
  | mailfrom => "mailfrom"
  | helo => "helo"

/-- The text with round brackets made square, so that it can stand in round ones. -/
def commentText (s : String) : List Char :=
  s.toList.map fun c => if c = '(' then '[' else if c = ')' then ']' else c

/-- The address of an envelope as the header shows it, without angle brackets at its ends and without
quotes. -/
def envelopeText (s : String) : List Char :=
  (stripped (fun c => c = '<' || c = '>') (stripped isBlank s.toList)).filter (· != '"')

/-- What a header line tells. -/
structure Header where
  result : String
  explanation : String
  ip : String
  envelope : String
  helo : String
  receiver : String
  identity : String
deriving DecidableEq, Repr

/-- The header line. An empty explanation and an empty name of the receiver are left out. -/
def Header.text (h : Header) : String :=
  let comment := String.ofList (commentText h.explanation)
  s!"Received-SPF: {h.result}"
    ++ (if comment = "" then "" else s!" ({comment})")
    ++ (if h.receiver = "" then "" else s!" receiver={h.receiver};")
    ++ s!" client-ip={h.ip}; envelope-from=\"{String.ofList (envelopeText h.envelope)}\"; "
    ++ s!"helo={h.helo}; identity={h.identity};"

end SenderPolicy
