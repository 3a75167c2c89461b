import SenderPolicy.Evaluation.Policy

/-! Checks of a client: against the policy of any domain, for the sender of a message, and for the name that
the client has given for itself. -/

namespace SenderPolicy

open Dns Text

/-! ### Checks against a policy -/

/-- What a check comes to, and what it has counted. -/
structure Outcome where
  verdict : Except Fault Verdict
  counters : Counters

/-- The outcome of an evaluation; errors of policies are verdicts too. -/
def Outcome.ofResult : Except Failure Verdict × Counters → Outcome
  | (.ok verdict, counters) => ⟨.ok verdict, counters⟩
  | (.error (.policy e), counters) => ⟨.ok e.verdict, counters⟩
  | (.error (.fault e), counters) => ⟨.error e, counters⟩

/-- Checks a context against the policy of a domain. -/
def Context.check (context : Context) (domain : String) : Inquiry Outcome :=
  Outcome.ofResult <$> (Evaluation.checkedPolicy domain).inquiry context {}

/-- Checks a client against the policy of a domain. -/
def checkHost (receiver : Receiver) (ip domain sender helo : String) : Inquiry (Except Fault Verdict) :=
  match Context.ofText receiver ip sender helo with
  | .error e => .done (.error e)
  | .ok context => Outcome.verdict <$> context.check domain

/-! ### Identities -/

/-- The text less a character that it begins with. -/
def withoutFirst (c : Char) (s : List Char) : List Char :=
  if s.head? = some c then s.drop 1 else s

/-- The text less a character that it ends in. -/
def withoutLast (c : Char) (s : List Char) : List Char :=
  if s.getLast? = some c then s.dropLast else s

/-- The address inside the white space and one pair of angle brackets. -/
def bareEnvelope (envelope : String) : String :=
  String.ofList (stripped isBlank (withoutLast '>' (withoutFirst '<' (stripped isBlank envelope.toList))))

/-- The sender and its domain that an envelope names. An empty one stands for the name of the client, and a
missing local part is filled in. -/
def senderOf (envelope helo : String) : String × String :=
  let bare := bareEnvelope envelope
  let (localPart, domain) := Context.splitSender (if bare = "" then trimmed helo else bare)
  let localPart := trimmed localPart
  let domain := trimmed domain
  let localPart := if localPart = "" then Context.defaultLocalPart else localPart
  (s!"{localPart}@{domain}", domain)

/-- Checks whether a client may send for the sender of an envelope. -/
def checkSender (receiver : Receiver) (ip envelope helo : String) : Inquiry (Except Fault Verdict) :=
  let helo := trimmed helo
  let (sender, domain) := senderOf envelope helo
  if Domain.isValid domain then checkHost receiver ip domain sender helo
  else .done (.ok ⟨.none, s!"Invalid domain: {Domain.shown domain}"⟩)

/-- Checks whether a client may use the name that it has given for itself. -/
def checkHelo (receiver : Receiver) (ip helo : String) : Inquiry (Except Fault Verdict) :=
  let helo := trimmed helo
  if Domain.isValid helo then
    checkHost receiver ip helo s!"{Context.defaultLocalPart}@{helo}" helo
  else .done (.ok ⟨.none, s!"Invalid HELO domain: {Domain.shown helo}"⟩)

end SenderPolicy
