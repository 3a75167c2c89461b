import SenderPolicy.Evaluation.Expansion

/-! Whether a directive matches the client. What an included policy says is left to a parameter. -/

namespace SenderPolicy.Evaluation

open Dns Text

/-! ### Addresses -/

/-- The address texts of a host; a lookup that finds none is counted. -/
def hostAddresses (host : String) (family : Family) : Evaluation (List String) := do
  match ← attempt (addresses .mechanism host [family]) with
  | .error .noSuchDomain => countVoidLookup; pure []
  | .error e => throwPolicy (.temporary host e)
  | .ok found =>
    if found.isEmpty then countVoidLookup
    pure found

/-- The number of leading bits that have to agree. -/
def sharedLength (cidr : DualCidr) : Family → Nat
  | .v4 => cidr.ip4.getD 32
  | .v6 => cidr.ip6.getD 128

/-- Whether one of some address texts agrees with an address in its leading bits; texts behind the first
that does are not read. -/
def anyShares (address : Address) (length : Nat) : List String → Except Fault Bool
  | [] => .ok false
  | text :: rest => match Address.ofText? text with
    | none => .error (.notAddress text)
    | some found =>
      if found.sharesBits length address then .ok true else anyShares address length rest

/-- Whether the client is among the addresses of a host. -/
def isAmong (cidr : DualCidr) (found : List String) : Evaluation Bool := do
  let address := (← read).address
  match anyShares address (sharedLength cidr address.family) found with
  | .ok answer => pure answer
  | .error e => throwFault e

/-! ### Mechanisms -/

/-- The client lies in the network of the directive. -/
def matchesNetwork (family : Family) (d : Directive) : Evaluation Bool := do
  match Network.ofText? d.value with
  | none => throwPolicy (.network d.value d.mechanism.name)
  | some network =>
    if network.address.family = family then pure (network.contains (← read).address)
    else throwPolicy (.network d.value d.mechanism.name)

/-- The client has one of the addresses of the target. -/
def matchesHost (d : Directive) (domain : String) : Evaluation Bool := do
  countLookup
  let cidr ← ofExcept (DualCidr.ofDirective d)
  let target ← targetName domain cidr.domainSpec
  let found ← hostAddresses target (← read).address.family
  isAmong cidr found

/-- The client has an address of one of some mail hosts; hosts behind the first that has it are not asked
for. -/
def anyMailHost (cidr : DualCidr) : List MailHost → Evaluation Bool
  | [] => pure false
  | host :: rest => do
    let found ← hostAddresses host.hostname (← read).address.family
    if ← isAmong cidr found then pure true else anyMailHost cidr rest

/-- The client has an address of a mail host of the target. -/
def matchesMailHost (d : Directive) (domain : String) : Evaluation Bool := do
  countLookup
  let cidr ← ofExcept (DualCidr.ofDirective d)
  let target ← targetName domain cidr.domainSpec
  match ← attempt (mailHosts .mechanism target) with
  | .error .noSuchDomain => countVoidLookup; pure false
  | .error e => throwPolicy (.temporary target e)
  | .ok [] => countVoidLookup; pure false
  | .ok hosts =>
    let limit := (← read).receiver.limits.mailHosts
    if (hosts.length : Int) > limit then throwPolicy (.tooManyMailHosts target limit hosts.length)
    anyMailHost cidr hosts

/-- A confirmed name of the client is the target or lies below it. A failing lookup is no match. -/
def matchesConfirmedName (d : Directive) (domain : String) : Evaluation Bool := do
  countLookup
  let target := Domain.withoutDots (lower (← targetName domain d.value))
  match ← clientNames with
  | .error _ => pure false
  | .ok names =>
    pure (names.any fun name =>
      let name := Domain.withoutDots name
      name == target || Domain.isBelow target name)

/-- The target has an address of the older family, whatever the client has. -/
def matchesExistence (d : Directive) (domain : String) : Evaluation Bool := do
  countLookup
  let target ← targetName domain d.value
  let found ← hostAddresses target .v4
  pure (!found.isEmpty)

/-- Runs the evaluation of a policy to which a term leads; that it is missing is an error of the term. -/
def entering (reference : Reference) (target : String) (policy : Evaluation Verdict) : Evaluation Verdict :=
  tryCatch policy fun
    | .policy (.noPolicy cause) => throwPolicy (.missingPolicy reference target cause)
    | e => throw e

/-- The policy of the target lets the client pass. -/
def matchesPolicy (policy : String → Evaluation Verdict) (d : Directive) (domain : String) : Evaluation Bool := do
  countLookup
  let target ← targetName domain d.value
  let verdict ← entering .incl target (policy target)
  pure (verdict.result == .pass)

/-- Whether a directive matches the client, given how the policy of a domain is evaluated. -/
def matchesClient (policy : String → Evaluation Verdict) (d : Directive) (domain : String) : Evaluation Bool :=
  match d.mechanism with
  | .all => pure true
  | .incl => matchesPolicy policy d domain
  | .a => matchesHost d domain
  | .mx => matchesMailHost d domain
  | .ptr => matchesConfirmedName d domain
  | .ip4 => matchesNetwork .v4 d
  | .ip6 => matchesNetwork .v6 d
  | .exists => matchesExistence d domain
  | .unknown name => throwFault (.unknownMechanism name)

end SenderPolicy.Evaluation
