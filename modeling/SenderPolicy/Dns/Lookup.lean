import SenderPolicy.Address.Printer
import SenderPolicy.Dns.Inquiry
import SenderPolicy.Domain
import SenderPolicy.Sorted

/-! Lookups: the texts, addresses, mail hosts and host names that answers hold, and the host names of an
address that lead back to it. A name without records of the type asked for has none; that is no error. -/

namespace SenderPolicy.Dns

open Text

/-- An inquiry that may fail as a lookup. -/
abbrev Lookup := ExceptT LookupError Inquiry

/-- The records of a name. -/
def records (q : Question) : Lookup (List String) :=
  ExceptT.mk <| (Inquiry.question q).bind fun
    | .ok records => .done (.ok records)
    | .error .noAnswer => .done (.ok [])
    | .error e => .done (.error (.ofResolver e))

/-- The text records of a name. -/
def texts (purpose : Purpose) (name : String) : Lookup (List String) :=
  records ⟨name, .txt, purpose⟩

/-! ### Addresses -/

/-- The record type that holds the addresses of a family. -/
def addressType : Family → RecordType
  | .v4 => .a
  | .v6 => .aaaa

/-- Whether a text may stand before or beside another in the order of code points. -/
def textLE (a b : String) : Bool := !decide (b < a)

/-- The addresses of a name in some families, as texts in ascending order. -/
def addresses (purpose : Purpose) (name : String) (families : List Family) : Lookup (List String) := do
  let found ← families.mapM fun family => records ⟨name, addressType family, purpose⟩
  pure (sorted textLE found.flatten)

/-- The families that the number of a version selects; both, if it is no version. -/
def familiesOf : Option Int → List Family
  | some 4 => [.v4]
  | some 6 => [.v6]
  | _ => [.v4, .v6]

/-! ### Mail hosts -/

/-- A host that takes mail, with the preference given to it. -/
structure MailHost where
  hostname : String
  preference : Int
deriving DecidableEq, Repr

namespace MailHost

/-- The order of preference; hosts of one preference stand in the order of their names. -/
def le (a b : MailHost) : Bool :=
  a.preference < b.preference || (a.preference == b.preference && textLE a.hostname b.hostname)

/-- Reads a preference and a host name with a space between them. -/
def ofText (s : String) : Except LookupError MailHost :=
  match pieces (· == ' ') s.toList with
  | preference :: rest => match readWhole (String.ofList preference), rest with
    | .error e, _ => .error (.preference e)
    | .ok _, [] => .error .missingHost
    | .ok n, host :: _ =>
      .ok ⟨lower (trimmed (String.ofList (dropTrailing (· == '.') host))), n⟩
  | [] => .error .missingHost

end MailHost

/-- The mail hosts that an answer holds. A single record of preference zero without a host says that the
domain takes no mail. -/
def readMailHosts (records : List String) : Except LookupError (List MailHost) :=
  if records = ["0 "] then .ok [] else (records.mapM MailHost.ofText).map (sorted MailHost.le)

/-- The mail hosts of a name in order of preference. -/
def mailHosts (purpose : Purpose) (name : String) : Lookup (List MailHost) := do
  let found ← records ⟨name, .mx, purpose⟩
  ExceptT.mk (.done (readMailHosts found))

/-! ### Host names -/

/-- The host names of a reverse name; none if there is no such name. -/
def pointers (purpose : Purpose) (reverseName : Option String) : Lookup (List String) :=
  match reverseName with
  | none => throw .malformedAddress
  | some name => tryCatch (records ⟨name, .ptr, purpose⟩) fun
    | .noSuchDomain => pure []
    | e => throw e

/-- The first elements of a list; a negative count leaves out as many at its end. -/
def firstOf {α : Type} (count : Int) (xs : List α) : List α :=
  if 0 ≤ count then xs.take count.toNat else xs.take (xs.length - (-count).toNat)

/-- Why the host names of an address cannot be confirmed. -/
inductive ConfirmationError where
  | reverse (cause : LookupError)
  /-- An answer holds a text that is no address. -/
  | badAddress (text : String)
deriving DecidableEq, Repr

/-- Whether one of some texts writes an address; texts behind the first that does are not read. -/
def anyWrites (address : Address) : List String → Except ConfirmationError Bool
  | [] => .ok false
  | text :: rest => match Address.ofText? text with
    | none => .error (.badAddress text)
    | some found => if found = address then .ok true else anyWrites address rest

/-- Of some names, in lower case, those whose addresses hold a given one. A name whose lookup fails is
passed over. -/
def confirmed (purpose : Purpose) (address : Address) :
    List String → ExceptT ConfirmationError Inquiry (List String)
  | [] => pure []
  | name :: rest => do
    match ← ExceptT.lift (addresses purpose name [address.family]).run with
    | .error _ => confirmed purpose address rest
    | .ok found =>
      let matched ← liftExcept (anyWrites address found)
      let names ← confirmed purpose address rest
      pure (if matched then lower name :: names else names)
where
  /-- Takes over a value or an error. -/
  liftExcept {α : Type} (x : Except ConfirmationError α) : ExceptT ConfirmationError Inquiry α :=
    ExceptT.mk (.done x)

/-- The host names of an address that lead back to it, of at most as many names as a limit allows. -/
def confirmedNames (purpose : Purpose) (limit : Int) (address : Address) :
    ExceptT ConfirmationError Inquiry (List String) := do
  match ← ExceptT.lift (pointers purpose address.reverseName?).run with
  | .error e => throw (.reverse e)
  | .ok names => confirmed purpose address (firstOf limit names)

end SenderPolicy.Dns
