import SenderPolicy.Address.Printer
import SenderPolicy.Dns.Lookup
import SenderPolicy.Error

/-! Evaluation: what a check knows, what it counts, and programs that may ask questions, count lookups and
fail. -/

namespace SenderPolicy

open Dns

/-- The ceilings of a check. They may be negative. -/
structure Limits where
  lookups : Int := 10
  voidLookups : Int := 2
  mailHosts : Int := 10
  pointers : Int := 10
  nesting : Int := 10
deriving DecidableEq, Repr

/-- The name of a receiver that has given none. -/
def Receiver.unknownName : String := "unknown"

/-- The host that performs checks. -/
structure Receiver where
  name : String := Receiver.unknownName
  /-- Whether errors in asking for a policy count as temporary, whatever they are. -/
  strict : Bool := false
  limits : Limits := {}
  clock : Instant
deriving DecidableEq, Repr

/-- What a check knows: the receiver, the address of the client and the names it has given. -/
structure Context where
  receiver : Receiver
  address : Address
  localPart : String
  senderDomain : String
  helo : String
deriving DecidableEq, Repr

namespace Context

/-- The sender, as `local-part@domain`. -/
def sender (context : Context) : String := s!"{context.localPart}@{context.senderDomain}"

/-- The local part of a sender that has none. -/
def defaultLocalPart : String := "postmaster"

/-- Cuts a sender at its last at sign into local part and domain. -/
def splitSender (sender : String) : String × String :=
  match Text.cutLast '@' sender.toList with
  | some (localPart, domain) => (String.ofList localPart, String.ofList domain)
  | none => ("", sender)

/-- The context for a client address and a sender. A mapped address is taken for the one it carries. -/
def ofText (receiver : Receiver) (ip sender helo : String) : Except Fault Context :=
  match Address.ofText? ip with
  | none => .error (.notAddress ip)
  | some address =>
    let (localPart, domain) := splitSender sender
    .ok ⟨receiver, address.unmapped, if localPart = "" then defaultLocalPart else localPart, domain, helo⟩

end Context

/-- What a check has counted so far. -/
structure Counters where
  lookups : Int := 0
  voidLookups : Int := 0
deriving DecidableEq, Repr

/-- A program that knows a context, counts lookups, may fail and may ask questions. What it has counted
stays counted when it fails. -/
abbrev Evaluation := ReaderT Context (ExceptT Failure (StateT Counters Inquiry))

namespace Evaluation

variable {α : Type}

def throwPolicy (cause : PolicyError) : Evaluation α := throw (.policy cause)

def throwFault (cause : Fault) : Evaluation α := throw (.fault cause)

/-- Takes over a value or a failure. -/
def ofExcept : Except Failure α → Evaluation α
  | .ok value => pure value
  | .error e => throw e

/-- Takes over an inquiry. -/
def ofInquiry (inquiry : Inquiry α) : Evaluation α := fun _ => ExceptT.lift (StateT.lift inquiry)

/-- Runs a lookup and hands over its error as a value. -/
def attempt (lookup : Lookup α) : Evaluation (Except LookupError α) := ofInquiry lookup.run

/-- Runs an evaluation and takes back what it has counted, however it ends. -/
def uncounted (evaluation : Evaluation α) : Evaluation α := fun context => ExceptT.mk fun counters => do
  let (outcome, _) ← (evaluation context).run counters
  pure (outcome, counters)

/-- The evaluation with all its questions asked for one purpose. -/
def askedFor (purpose : Purpose) (evaluation : Evaluation α) : Evaluation α := fun context =>
  ExceptT.mk fun counters => Inquiry.askedFor purpose ((evaluation context).run counters)

/-- Runs an evaluation from a context and what has been counted. -/
def inquiry (evaluation : Evaluation α) (context : Context) (counters : Counters) :
    Inquiry (Except Failure α × Counters) :=
  (evaluation context).run counters

/-- Counts a term that asks questions. -/
def countLookup : Evaluation Unit := do
  modify fun counters => { counters with lookups := counters.lookups + 1 }
  let count := (← get).lookups
  let limit := (← read).receiver.limits.lookups
  if count > limit then throwPolicy (.tooManyLookups limit count)

/-- Counts a lookup that has found nothing. -/
def countVoidLookup : Evaluation Unit := do
  modify fun counters => { counters with voidLookups := counters.voidLookups + 1 }
  let count := (← get).voidLookups
  let limit := (← read).receiver.limits.voidLookups
  if count > limit then throwPolicy (.tooManyVoidLookups limit count)

end Evaluation

end SenderPolicy
