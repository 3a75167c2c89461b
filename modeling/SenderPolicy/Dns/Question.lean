import SenderPolicy.Text.LetterCase

/-! Questions to the Domain Name System: a name, a record type, and what the answer is wanted for. -/

namespace SenderPolicy.Dns

/-- A type of record. -/
inductive RecordType where
  | a
  | aaaa
  | mx
  | ptr
  | txt
  | other (name : String)
deriving DecidableEq, Repr

def RecordType.text : RecordType → String
  | .a => "A"
  | .aaaa => "AAAA"
  | .mx => "MX"
  | .ptr => "PTR"
  | .txt => "TXT"
  | .other name => name

/-- The record type that a text names in any letter case. -/
def RecordType.ofText (s : String) : RecordType :=
  let name := Text.upper s
  if name = "A" then .a
  else if name = "AAAA" then .aaaa
  else if name = "MX" then .mx
  else if name = "PTR" then .ptr
  else if name = "TXT" then .txt
  else .other name

/-- What an answer is wanted for: to find a policy, to test a mechanism, to confirm the host names of the
client, to build an explanation, or for its own sake. -/
inductive Purpose where
  | policy
  | mechanism
  | confirmation
  | explanation
  | direct
deriving DecidableEq, Repr

structure Question where
  name : String
  type : RecordType
  purpose : Purpose
deriving DecidableEq, Repr

end SenderPolicy.Dns
