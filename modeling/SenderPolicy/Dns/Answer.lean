import SenderPolicy.Number.Seconds
import SenderPolicy.Text.Numeral

/-! Answers to questions: the texts of the records, or why there are none, and the errors that reading an
answer may end in. -/

namespace SenderPolicy.Dns

open Text

/-- Which part of the system a failure without a kind of its own comes from. -/
inductive FailureKind where
  | protocol
  | value
  | system
deriving DecidableEq, Repr

/-- Why a question has no answer. -/
inductive ResolverError where
  | noSuchName
  | noAnswer
  | noNameservers
  /-- The time for all attempts of the resolver has run out. -/
  | lifetimeExpired (after : Option Seconds)
  /-- A single operation has taken too long. -/
  | timedOut (after : Option Seconds)
  | failed (kind : FailureKind) (message : String)
  /-- The time to wait for answers is given by a text that is no number. -/
  | badTimeout (cause : NumeralError)
deriving DecidableEq, Repr

namespace ResolverError

def message : ResolverError → String
  | noSuchName => "The DNS query name does not exist."
  | noAnswer => "The DNS response does not contain an answer to the question."
  | noNameservers => "All nameservers failed to answer the query."
  | lifetimeExpired none => "The resolution lifetime expired."
  | lifetimeExpired (some t) => s!"The resolution lifetime expired after {t.text} seconds: "
  | timedOut none => "The DNS operation timed out."
  | timedOut (some t) => s!"The DNS operation timed out after {t.text} seconds"
  | failed _ message => message
  | badTimeout cause => cause.message

/-- Errors that may be gone at the next attempt. -/
def isTemporary : ResolverError → Bool
  | noNameservers | lifetimeExpired _ | timedOut _ => true
  | _ => false

/-- The error with its span of time rounded, as lookups report it. -/
def rounded : ResolverError → ResolverError
  | lifetimeExpired t => lifetimeExpired (t.map (·.rounded))
  | timedOut t => timedOut (t.map (·.rounded))
  | e => e

end ResolverError

/-- The texts of the records of a name, or why there are none. -/
abbrev Answer := Except ResolverError (List String)

/-- Why a lookup fails: there is no such domain, it may succeed later, or it went wrong otherwise. -/
inductive LookupError where
  | noSuchDomain
  | temporary (cause : ResolverError)
  | resolver (cause : ResolverError)
  /-- The preference of a mail host is no whole number. -/
  | preference (cause : NumeralError)
  /-- A mail record has no host. -/
  | missingHost
  /-- The text whose host name is asked for is no address. -/
  | malformedAddress
deriving DecidableEq, Repr

namespace LookupError

def message : LookupError → String
  | noSuchDomain => "The domain does not exist."
  | temporary cause => cause.message
  | resolver cause => cause.message
  | preference cause => cause.message
  | missingHost => "list index out of range"
  | malformedAddress => "Text input is malformed."

/-- The error of a lookup whose question has no answer. -/
def ofResolver (e : ResolverError) : LookupError :=
  match e with
  | .noSuchName => noSuchDomain
  | e => if e.isTemporary then temporary e.rounded else resolver e

end LookupError

end SenderPolicy.Dns
