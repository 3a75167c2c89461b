import SenderPolicy.Check
import SenderPolicy.Report.Document
import SenderPolicy.Report.Header

/-! Reports: the checks of both identities of a client, with the header line of each. -/

namespace SenderPolicy

open Dns Text

/-- The check of one identity. -/
structure IdentityReport where
  identity : Identity
  domain : String
  verdict : Verdict
  header : String
deriving DecidableEq, Repr

/-- The checks of a client. -/
structure Report where
  clientIp : String
  envelope : String
  helo : String
  mailfromReport : IdentityReport
  heloReport : Option IdentityReport
deriving DecidableEq, Repr

/-- What a client hands over: its address, the envelope it has sent and the name it has given for itself. -/
structure Delivery where
  ip : String
  envelope : String
  helo : String
deriving DecidableEq, Repr

namespace Report

/-- The name of the receiver that headers show; a receiver that has given none is not shown. -/
def shownReceiver (receiver : Receiver) : String :=
  if receiver.name = Receiver.unknownName then "" else receiver.name

/-- The report on an identity from its verdict. -/
def ofVerdict (receiver : Receiver) (delivery : Delivery) (identity : Identity) (domain : String)
    (verdict : Verdict) : IdentityReport :=
  let header : Header :=
    ⟨verdict.result.text, verdict.explanation, delivery.ip, delivery.envelope, delivery.helo, shownReceiver receiver,
      identity.text⟩
  ⟨identity, domain, verdict, header.text⟩

/-- Checks the sender of an envelope and, if asked for, the name of the client. -/
def inquiry (receiver : Receiver) (delivery : Delivery) (withHelo : Bool) : Inquiry (Except Fault Report) :=
  let delivery := { delivery with helo := trimmed delivery.helo }
  let body : ExceptT Fault Inquiry Report := do
    let verdict ← ExceptT.mk (checkSender receiver delivery.ip delivery.envelope delivery.helo)
    let mailfrom := ofVerdict receiver delivery .mailfrom (senderOf delivery.envelope delivery.helo).2 verdict
    let helo ← if withHelo then do
        let verdict ← ExceptT.mk (checkHelo receiver delivery.ip delivery.helo)
        pure (some (ofVerdict receiver delivery .helo delivery.helo verdict))
      else pure none
    pure ⟨delivery.ip, delivery.envelope, delivery.helo, mailfrom, helo⟩
  body.run

/-- The document of the report on an identity. -/
def identityDocument (r : IdentityReport) : Document :=
  .object [("identity", .text r.identity.text), ("domain", .text r.domain),
    ("result", .text r.verdict.result.text), ("explanation", .text r.verdict.explanation),
    ("received_spf", .text r.header)]

/-- The document of a report. -/
def document (r : Report) : Document :=
  .object [("client_ip", .text r.clientIp), ("envelope_from", .text r.envelope),
    ("helo_domain", .text r.helo), ("mailfrom", identityDocument r.mailfromReport),
    ("helo", r.heloReport.elim .null identityDocument)]

end Report

end SenderPolicy
