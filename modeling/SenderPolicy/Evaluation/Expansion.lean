import SenderPolicy.Evaluation.Basic
import SenderPolicy.Macro.Transform
import SenderPolicy.Record.Reader

/-! Expanding macro strings against what a check knows, and the names to which the terms of a record lead. -/

namespace SenderPolicy.Evaluation

open Dns Text

/-- The name that stands for a client without confirmed host names. -/
def noConfirmedName : String := "unknown"

/-- Of the confirmed names, the domain itself, or else the first one below it, or else the first one. -/
def preferredName (domain : String) (names : List String) : String :=
  let domain := Domain.withoutDots (lower domain)
  if names.contains domain then domain
  else ((names.find? (Domain.isBelow domain)).orElse fun _ => names.head?).getD noConfirmedName

/-- The confirmed names of the client, or why there are none. -/
def clientNames : Evaluation (Except LookupError (List String)) := do
  let context ← read
  let names := confirmedNames .confirmation context.receiver.limits.pointers context.address
  match ← ofInquiry names.run with
  | .ok names => pure (.ok names)
  | .error (.reverse e) => pure (.error e)
  | .error (.badAddress text) => throwFault (.notAddress text)

/-- A confirmed name of the client. Only an explanation may ask for it without being counted. -/
def confirmedName (explanation : Bool) (domain : String) : Evaluation String := do
  if !explanation then countLookup
  match ← clientNames with
  | .ok names => pure (preferredName domain names)
  | .error _ => pure noConfirmedName

/-- The text of an address as macros use it. -/
def addressText (address : Address) : Evaluation String :=
  match address.macroText with
  | .ok text => pure text
  | .error e => throwFault (.scopedAddress e)

/-- The text of the fact that a letter stands for. -/
def fact (explanation : Bool) (domain : String) (letter : Letter) : Evaluation String := do
  let context ← read
  match letter with
  | .sender => pure context.sender
  | .localPart => pure context.localPart
  | .senderDomain => pure context.senderDomain
  | .domain => pure domain
  | .address => addressText context.address
  | .confirmedName => confirmedName explanation domain
  | .family => pure (if context.address.family = .v4 then "in-addr" else "ip6")
  | .helo => pure context.helo
  | .client => pure context.address.text
  | .receiver => pure context.receiver.name
  | .time | .variant _ => pure (toString context.receiver.clock.wholeSeconds)

/-- The text that tokens stand for. -/
def expandTokens (explanation : Bool) (domain : String) : List Token → Evaluation String
  | [] => pure ""
  | .literal text :: rest => do
    let later ← expandTokens explanation domain rest
    pure (text ++ later)
  | .expansion m :: rest => do
    let value ← fact explanation domain m.letter
    let later ← expandTokens explanation domain rest
    pure (m.transform value ++ later)

/-- The text that a macro string stands for. -/
def expand (explanation : Bool) (domain macroString : String) : Evaluation String := do
  match readTokens explanation macroString.toList with
  | .error e => throw (.ofMacroString domain macroString Record.defaultMarker e)
  | .ok tokens => expandTokens explanation domain tokens

/-- The name that a domain-spec stands for: the current domain if it is empty, and cut to the length of a
name if it holds macros. -/
def expandDomainSpec (domain spec : String) : Evaluation String := do
  if spec = "" then pure domain
  else if !spec.toList.contains '%' then pure spec
  else
    let name ← expand false domain spec
    pure (Domain.shortened Domain.maxLength name)

/-- The name to which a term leads; it has to be a domain name. -/
def targetName (domain spec : String) : Evaluation String := do
  let target ← expandDomainSpec domain spec
  if Domain.isValid target then pure target else throwPolicy (.invalidTarget target)

end SenderPolicy.Evaluation
