import SenderPolicy.Address.Reader
import SenderPolicy.Dns.Answer
import SenderPolicy.Domain
import SenderPolicy.Macro.Reader
import SenderPolicy.Term.Basic

/-! What may go wrong in a check. Errors of policies become the result of the check; faults do not: they are
inputs that the check does not foresee. -/

namespace SenderPolicy

open Dns Text

/-! ### Malformed texts -/

/-- What may stand where a record goes wrong. -/
inductive Expectation where
  | versionTag
  | termOrEnd
  | term
deriving DecidableEq, Repr

def Expectation.text : Expectation → String
  | versionTag => "version_tag"
  | termOrEnd => "directive or modifier or end_of_statement"
  | term => "directive or modifier"

/-- A text with a mark at the position of an error. -/
structure Marked where
  position : Nat
  marker : String
  text : String
deriving DecidableEq, Repr

/-- The text with the mark put in. -/
def Marked.shown (m : Marked) : String :=
  String.ofList (insertedAt m.position m.marker.toList m.text.toList)

def Marked.place (m : Marked) : String :=
  s!"at position {m.position} (marked with {m.marker})"

/-- What is wrong with a text that should be a part of a policy. -/
inductive SyntaxError where
  | notMacro (text : String)
  | zeroDigits (text : String)
  | macroString (domain : String) (marked : Marked)
  | cidr (raw : String)
  | cidr4 (raw : String)
  | cidr6 (raw : String)
  | domainSpec (domain spec : String)
  | macroInNetwork (domain mechanism value : String)
  | network (value mechanism : String)
  | record (domain : String) (expected : Expectation) (marked : Marked)
  | term (domain text : String) (marked : Marked)
  | severalRedirects (domain : String)
  | severalExplanations (domain : String)
deriving DecidableEq, Repr

def SyntaxError.message : SyntaxError → String
  | notMacro text => s!"Invalid SPF macro: %{text}"
  | zeroDigits text => s!"SPF macro transformer digits must be non-zero: %{text}"
  | macroString domain m => s!"{domain}: Invalid SPF macro syntax {m.place} in value: {m.shown}"
  | cidr raw => s!"Invalid CIDR length in {raw}"
  | cidr4 raw => s!"Invalid IPv4 CIDR length in {raw}"
  | cidr6 raw => s!"Invalid IPv6 CIDR length in {raw}"
  | domainSpec domain spec => s!"{domain}: {spec} is not a valid domain-spec"
  | macroInNetwork domain mechanism value =>
    s!"{domain}: SPF macros are not allowed in {mechanism} mechanisms: {value}"
  | network value mechanism => s!"{value} is not a valid {mechanism} value."
  | record domain expected m => s!"{domain}: Expected {expected.text} {m.place} in: {m.shown}"
  | term domain text m => s!"{domain}: Invalid term {text} {m.place} in: {m.shown}"
  | severalRedirects domain => s!"{domain}: Multiple redirect modifiers"
  | severalExplanations domain => s!"{domain}: Multiple exp modifiers"

/-! ### Errors of policies -/

/-- Why a domain has no policy. -/
inductive NoPolicy where
  | domainMissing
  | recordMissing
  | invalidDomain (domain : String)
  | lookup (cause : LookupError)
deriving DecidableEq, Repr

def NoPolicy.message : NoPolicy → String
  | domainMissing => "The domain does not exist."
  | recordMissing => "An SPF record does not exist."
  | invalidDomain domain => s!"Invalid domain: {Domain.shown domain}"
  | lookup cause => cause.message

/-- How one policy leads to another. -/
inductive Reference where
  | incl
  | redirect
deriving DecidableEq, Repr

def Reference.text : Reference → String
  | incl => "include:"
  | redirect => "redirect="

/-- Why a check ends without a matching directive. -/
inductive PolicyError where
  | malformed (cause : SyntaxError)
  | noPolicy (cause : NoPolicy)
  | severalRecords (domain : String)
  | temporary (name : String) (cause : LookupError)
  | invalidTarget (name : String)
  | network (value mechanism : String)
  /-- A policy that another one leads to is missing. -/
  | missingPolicy (reference : Reference) (target : String) (cause : NoPolicy)
  | tooManyLookups (limit count : Int)
  | tooManyMailHosts (domain : String) (limit count : Int)
  | tooManyVoidLookups (limit count : Int)
  | tooDeep (limit : Int) (domain : String)
deriving DecidableEq, Repr

namespace PolicyError

def message : PolicyError → String
  | malformed cause => cause.message
  | noPolicy cause => cause.message
  | severalRecords domain => s!"{domain}: multiple SPF records"
  | temporary name cause => s!"{name}: {cause.message}"
  | invalidTarget name => s!"Invalid target name: {Domain.shown name}"
  | network value mechanism => (SyntaxError.network value mechanism).message
  | missingPolicy reference target cause => s!"{reference.text}{target}: {cause.message}"
  | tooManyLookups limit _ =>
    s!"Evaluating the SPF record requires more than {limit} DNS lookups (RFC 7208 § 4.6.4)"
  | tooManyMailHosts domain limit _ => s!"{domain} has more than {limit} MX records (RFC 7208 § 4.6.4)"
  | tooManyVoidLookups limit _ =>
    s!"Evaluating the SPF record has more than {limit} void DNS lookups (RFC 7208 § 4.6.4)"
  | tooDeep limit domain => s!"include/redirect nesting exceeds {limit} levels at {domain}"

/-- The result of a check that ends in an error. -/
def result : PolicyError → Result
  | noPolicy _ => .none
  | temporary _ _ => .temperror
  | _ => .permerror

/-- The verdict of a check that ends in an error. -/
def verdict (e : PolicyError) : Verdict := ⟨e.result, e.message⟩

end PolicyError

/-! ### Faults -/

/-- An input that the check does not foresee. -/
inductive Fault where
  | notAddress (text : String)
  | scopedAddress (cause : Address.GroupsError)
  | numeral (cause : NumeralError)
  /-- A value that cannot be split into a name and prefix lengths, since it holds a line end. -/
  | unsplittable
  | unknownMechanism (name : String)
  | unknownQualifier (sign : String)
deriving DecidableEq, Repr

def Fault.message : Fault → String
  | notAddress text => s!"{quoted text} does not appear to be an IPv4 or IPv6 address"
  | scopedAddress cause => cause.message
  | numeral cause => cause.message
  | unsplittable => "\x27NoneType\x27 object has no attribute \x27group\x27"
  | unknownMechanism name => quoted name
  | unknownQualifier sign => quoted sign

/-- Why a computation over policies does not come to a value. -/
inductive Failure where
  | policy (cause : PolicyError)
  | fault (cause : Fault)
deriving DecidableEq, Repr

/-- The failure of a malformed text. -/
def Failure.malformed (cause : SyntaxError) : Failure := policy (.malformed cause)

/-- The failure of a text that should begin with a macro. -/
def Failure.ofMacro (text : String) : Macro.ReadError → Failure
  | .malformed => malformed (.notMacro text)
  | .zeroDigits => malformed (.zeroDigits text)
  | .numeral e => fault (.numeral e)

/-- The failure of a macro string with the mark that shows its place. -/
def Failure.ofMacroString (domain value marker : String) : MacroStringError → Failure
  | .position n => malformed (.macroString domain ⟨n, marker, value⟩)
  | .numeral e => fault (.numeral e)

end SenderPolicy
