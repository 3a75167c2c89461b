import SenderPolicy.Address.Network
import SenderPolicy.Term.DualCidr

/-! Reading records: a version, and then terms between white space. A record is read twice, first for the
shape of all its terms, then term by term. -/

namespace SenderPolicy.Record

open Text

/-- The version that a record begins with. -/
def version : String := "v=spf1"

/-- What marks the place of an error, if the caller asks for nothing else. -/
def defaultMarker : String := "➞"

/-! ### Quoted segments -/

/-- The text without pairs of quotes that have only white space between them. The white space behind a
quote is kept backwards until it is clear what follows. -/
def dropQuotePairs : (opened : Option (List Char)) → List Char → List Char
  | none, [] => []
  | none, c :: rest => if c = '"' then dropQuotePairs (some []) rest else c :: dropQuotePairs none rest
  | some blanks, [] => '"' :: blanks.reverse
  | some blanks, c :: rest =>
    if c = '"' then dropQuotePairs none rest
    else if isBlank c then dropQuotePairs (some (c :: blanks)) rest
    else '"' :: blanks.reverse ++ c :: dropQuotePairs none rest

/-- The record without the quotes of its segments and without white space at its ends. -/
def unquoted (record : String) : String :=
  let s := record.toList
  let s := if s.head? = some '"' then stripped (· == '"') (dropQuotePairs none s) else s
  String.ofList (stripped isBlank s)

/-! ### Shape -/

/-- Whether a text begins with the version as a word of its own. -/
def hasVersion (s : List Char) : Bool :=
  version.toList.isPrefixOf s && (s.drop version.length).head?.all isBlank

/-- The terms of a text that has a version, with their positions. -/
def placedTerms (s : List Char) : List (Nat × List Char) :=
  placedWords version.length (s.drop version.length)

/-- Where a text has not the shape of a record, and what should stand there. -/
def misfit? (s : List Char) : Option (Nat × Expectation) :=
  if !hasVersion s then some (0, .versionTag)
  else
    let fits := fun (_, term) => hasDirectiveShape term || hasModifierShape term
    let terms := placedTerms s
    (terms.find? (!fits ·)).map fun (position, _) =>
      (position, if terms.head?.all fits then .term else .termOrEnd)

/-! ### Terms -/

/-- Checks a name that may hold macros. -/
def checkDomainSpec (domain marker spec : String) : Except Failure Unit :=
  match readTokens false spec.toList with
  | .error e => .error (.ofMacroString domain spec marker e)
  | .ok _ =>
    if spec.toList.contains '%' || Domain.isValid spec then .ok ()
    else .error (.malformed (.domainSpec domain spec))

/-- Checks the network of a directive against the family that its mechanism is for. -/
def checkNetwork (domain : String) (family : Family) (d : Directive) : Except Failure Unit :=
  if d.value.toList.contains '%' then
    .error (.malformed (.macroInNetwork domain d.mechanism.name d.value))
  else if (Network.ofText? d.value).any (·.address.family = family) then .ok ()
  else .error (.malformed (.network d.value d.mechanism.name))

/-- Checks the value of a directive. -/
def checkDirective (domain marker : String) (d : Directive) : Except Failure Unit :=
  match d.mechanism with
  | .ip4 => checkNetwork domain .v4 d
  | .ip6 => checkNetwork domain .v6 d
  | .a | .mx => do
    let cidr ← DualCidr.ofDirective d
    if cidr.domainSpec = "" then pure () else checkDomainSpec domain marker cidr.domainSpec
  | .incl | .exists | .ptr => if d.value = "" then .ok () else checkDomainSpec domain marker d.value
  | .all | .unknown _ => .ok ()

/-- Checks the macro string of a modifier. Those that are not known may use every letter. -/
def checkModifier (domain marker : String) (m : Modifier) : Except Failure Unit :=
  if m.isRedirect || m.isExplanation then checkDomainSpec domain marker m.macroString
  else match readTokens true m.macroString.toList with
    | .error e => .error (.ofMacroString domain m.macroString marker e)
    | .ok _ => .ok ()

/-- Reads one term of a record. An error shows the first place where the text of the term occurs. -/
def readTerm (record domain marker : String) (term : List Char) : Except Failure Term :=
  let raw := String.ofList term
  match Directive.ofText? raw with
  | some d => (checkDirective domain marker d).map fun _ => .directive d
  | none => match Modifier.ofText? raw with
    | some m => (checkModifier domain marker m).map fun _ => .modifier m
    | none =>
      let position := (positionOf term record.toList).getD 0
      .error (.malformed (.term domain raw ⟨position, marker, record⟩))

/-- The terms of a record. -/
def read (domain marker record : String) : Except Failure (List Term) :=
  let record := unquoted record
  match misfit? record.toList with
  | some (position, expected) =>
    .error (.malformed (.record domain expected ⟨position, marker, record⟩))
  | none => ((placedTerms record.toList).map (·.2)).mapM (readTerm record domain marker)

end SenderPolicy.Record
