import SenderPolicy.Dns.Lookup
import SenderPolicy.Error
import SenderPolicy.Record.Reader

/-! Finding the record of a domain among its text records: the only one that begins with the version. -/

namespace SenderPolicy.Record

open Dns

/-- Whether a text record is the record of a policy: the version, alone or with a space behind it. -/
def isPolicy (text : String) : Bool :=
  let s := text.toList
  s == version.toList || (version.toList ++ [' ']).isPrefixOf s

/-- The record among the text records of a domain. -/
def select (domain : String) (texts : List String) : Except PolicyError String :=
  match texts.filter isPolicy with
  | [] => .error (.noPolicy .recordMissing)
  | [record] => .ok record
  | _ => .error (.severalRecords domain)

/-- What it means for a policy that the text records of its domain cannot be had. Errors that are neither
temporary nor the lack of the domain are taken for temporary ones only if asked for. -/
def lookupFailure (domain : String) (strict : Bool) : LookupError → PolicyError
  | .noSuchDomain => .noPolicy .domainMissing
  | .temporary cause => .temporary domain (.temporary cause)
  | e => if strict then .temporary domain e else .noPolicy (.lookup e)

/-- Asks for the record of a domain. -/
def query (purpose : Purpose) (strict : Bool) (domain : String) : ExceptT PolicyError Inquiry String :=
  let domain := Domain.normalized domain
  ExceptT.mk <| (texts purpose domain).run.bind fun
    | .error e => .done (.error (lookupFailure domain strict e))
    | .ok found => .done (select domain found)

end SenderPolicy.Record
