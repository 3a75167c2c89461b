import SenderPolicy.Dns.Cache
import SenderPolicy.Dns.Inquiry
import SenderPolicy.Domain

/-! The client that answers questions: it asks a resolver for the normal form of a name, keeps answers in a
cache, tries again when the time of the resolver has run out, and keeps a log of its calls. -/

namespace SenderPolicy.Dns

open Text

/-! ### What a resolver gives -/

/-- A record as a resolver gives it: the text of its data, or the character strings of a text record. -/
inductive ResourceRecord where
  | text (data : String)
  | strings (parts : List (List UInt8))
deriving DecidableEq, Repr

abbrev Reply := Except ResolverError (List ResourceRecord)

/-- What stands for the text of a record that is not in the encoding of texts. -/
def undecodable : String := "Undecodable characters"

/-- The text of a text record, its character strings joined; none if it has no character string. -/
def ResourceRecord.joinedText? : ResourceRecord → Option String
  | text data => some data
  | strings [] => none
  | strings parts => some ((String.fromUTF8? ⟨parts.flatten.toArray⟩).getD undecodable)

/-- The data of a record without the dots at its end. -/
def ResourceRecord.data : ResourceRecord → String
  | text data => Domain.withoutDots data
  | strings _ => ""

/-- The texts that an answer gives for the records of a reply. -/
def readReply (type : RecordType) (records : List ResourceRecord) : List String :=
  if type = .txt then records.filterMap (·.joinedText?) else records.map (·.data)

/-! ### Options -/

/-- How long to wait for an answer: a whole number of seconds, another quantity, or a text that is read as
one when it is needed. -/
inductive Timeout where
  | whole (n : Int)
  | quantity (q : Quantity)
  | numeral (text : String)
deriving DecidableEq, Repr

/-- The number of seconds to wait. -/
def Timeout.seconds : Timeout → Except NumeralError Quantity
  | whole n => .ok (.finite ⟨n < 0, n.natAbs, 0⟩)
  | quantity q => .ok q
  | numeral text => readDecimal text

/-- How questions are put to the resolver. -/
structure Options where
  nameservers : Option (List String) := none
  timeout : Timeout := .quantity (.finite ⟨false, 2, 0⟩)
  retries : Int := 2
  /-- The resolver is given by the caller, who has set it up. -/
  resolverGiven : Bool := false
deriving DecidableEq, Repr

/-- What the resolver is set to during a call. -/
structure CallSettings where
  nameservers : Option (List String)
  timeout : Option Quantity
  lifetime : Option Quantity
  lifetimeArgument : Timeout
deriving DecidableEq, Repr

/-- The settings for a call. Only the client's own resolver is set up from the options. -/
def Options.settings (options : Options) : Except NumeralError CallSettings :=
  if options.resolverGiven then .ok ⟨none, none, none, options.timeout⟩
  else options.timeout.seconds.map fun t => ⟨options.nameservers, some t, some t, .quantity t⟩

/-! ### The client -/

/-- A call of the resolver. -/
structure Call where
  question : Question
  settings : CallSettings
deriving DecidableEq, Repr

/-- A resolver answers by the calls made before, the latest first, and the question. -/
abbrev Resolver := List Call → Question → Reply

structure Client where
  resolver : Resolver
  now : Instant
  options : Options
  /-- Whether answers are read from the cache and kept in it. -/
  caching : Bool := true

/-- What a client keeps from one question to the next: its cache, and its calls, the latest first. -/
structure ClientState where
  cache : Cache
  calls : List Call := []
deriving DecidableEq, Repr

namespace Client

/-- The key under which the answer to a question is kept. -/
def key (q : Question) : String := q.name ++ "_" ++ q.type.text

/-- Calls the resolver and keeps the records it gives. -/
def call (client : Client) (q : Question) (settings : CallSettings) (s : ClientState) : Answer × ClientState :=
  let reply := client.resolver s.calls q
  let s := { s with calls := ⟨q, settings⟩ :: s.calls }
  match reply with
  | .error e => (.error e, s)
  | .ok given =>
    let records := readReply q.type given
    (.ok records, if client.caching then { s with cache := s.cache.insert client.now (key q) records } else s)

/-- Answers a question from the cache, or else by one call. -/
def attempt (client : Client) (q : Question) (s : ClientState) : Answer × ClientState :=
  let (hit, cache) := if client.caching then s.cache.find client.now (key q) else (none, s.cache)
  let s := { s with cache }
  match hit with
  | some records => (.ok records, s)
  | none => match client.options.settings with
    | .error e => (.error (.badTimeout e), s)
    | .ok settings => client.call q settings s

/-- Answers a question, with some more attempts while the time of the resolver runs out. -/
def answer (client : Client) : (retries : Nat) → Question → ClientState → Answer × ClientState
  | 0, q, s => client.attempt { q with name := Domain.normalized q.name } s
  | retries + 1, q, s =>
    let q := { q with name := Domain.normalized q.name }
    match client.attempt q s with
    | (.error (.lifetimeExpired _), s) => client.answer retries q s
    | result => result

/-- Runs an inquiry. -/
def run {α : Type} (client : Client) (inquiry : Inquiry α) (s : ClientState) : α × ClientState :=
  inquiry.run (client.answer client.options.retries.toNat) s

end Client

end SenderPolicy.Dns
