import SenderPolicy.Evaluation.Match
import SenderPolicy.Record.Selection

/-! The evaluation of policies: the first directive that matches decides, and if none does, a redirect leads
to another policy. Policies may lead to each other only up to a depth. -/

namespace SenderPolicy.Evaluation

open Dns

/-! ### Explanations -/

/-- The explanation to which a modifier leads, if its domain has a single text record. Nothing that is asked
for it is counted, and an error means that there is no explanation. -/
def explanation (exp : Modifier) (domain : String) : Evaluation (Option String) :=
  askedFor .explanation <| tryCatch
    (do
      let target ← uncounted (targetName domain exp.macroString)
      match ← attempt (texts .explanation target) with
      | .ok [text] => some <$> expand true domain text
      | _ => pure none)
    fun
      | .policy _ => pure none
      | e => throw e

/-! ### Terms -/

/-- The modifiers of a record that are evaluated. -/
structure Modifiers where
  redirect : Option Modifier := none
  exp : Option Modifier := none
deriving DecidableEq, Repr

/-- Collects the modifiers of a record; each kind may occur once. -/
def collectModifiers (domain : String) : Modifiers → List Term → Except PolicyError Modifiers
  | found, [] => .ok found
  | found, .directive _ :: rest => collectModifiers domain found rest
  | found, .modifier m :: rest =>
    if m.isRedirect then
      if found.redirect.isSome then .error (.malformed (.severalRedirects domain))
      else collectModifiers domain { found with redirect := some m } rest
    else if m.isExplanation then
      if found.exp.isSome then .error (.malformed (.severalExplanations domain))
      else collectModifiers domain { found with exp := some m } rest
    else collectModifiers domain found rest

/-- The verdict that a matching directive gives. -/
def directiveVerdict (d : Directive) (exp : Option Modifier) (domain : String) : Evaluation Verdict := do
  let client := (← read).address.text
  match d.qualifier.result? with
  | none => throwFault (.unknownQualifier d.qualifier.sign)
  | some .pass => pure ⟨.pass, s!"Allowed sender IP: {client}"⟩
  | some .fail =>
    let text ← match exp with
      | none => pure none
      | some exp => explanation exp domain
    let text := text.getD ""
    pure ⟨.fail, if text = "" then s!"Disallowed sender IP: {client}" else text⟩
  | some result => pure ⟨result, s!"Sender IP {client} matched {d.raw}"⟩

/-- How the policy of a domain is evaluated, and whether a failure is to be explained. -/
abbrev PolicyEvaluation := (domain : String) → (explain : Bool) → Evaluation Verdict

/-- What comes of a record in which no directive matches. -/
def withoutMatch (policy : PolicyEvaluation) (redirect : Option Modifier) (domain : String) (explain : Bool) :
    Evaluation Verdict :=
  match redirect with
  | none => pure ⟨.neutral, "Default result"⟩
  | some m => do
    countLookup
    let target ← targetName domain m.macroString
    entering .redirect target (policy target explain)

/-- Evaluates directives from the first on. -/
def evaluateDirectives (policy : PolicyEvaluation) (found : Modifiers) (domain : String) (explain : Bool) :
    List Term → Evaluation Verdict
  | [] => withoutMatch policy found.redirect domain explain
  | .modifier _ :: rest => evaluateDirectives policy found domain explain rest
  | .directive d :: rest => do
    if ← matchesClient (policy · false) d domain then
      directiveVerdict d (if explain then found.exp else none) domain
    else evaluateDirectives policy found domain explain rest

/-- Evaluates the terms of a record. An included policy is never explained. -/
def evaluateTerms (policy : PolicyEvaluation) (terms : List Term) (domain : String) (explain : Bool) :
    Evaluation Verdict := do
  match collectModifiers domain {} terms with
  | .error e => throwPolicy e
  | .ok found => evaluateDirectives policy found domain explain terms

/-! ### Policies -/

/-- Evaluates the policy of a domain from its record, given how other policies are evaluated. -/
def evaluatePolicy (policy : PolicyEvaluation) : PolicyEvaluation := fun domain explain => do
  if !Domain.isValid domain then throwPolicy (.noPolicy (.invalidDomain domain))
  match ← ofInquiry (Record.query .policy (← read).receiver.strict domain).run with
  | .error e => throwPolicy e
  | .ok record =>
    let terms ← ofExcept (Record.read domain Record.defaultMarker record)
    if terms.isEmpty then pure ⟨.neutral, "No policies specified"⟩
    else evaluateTerms policy terms domain explain

/-- The evaluation of policies that lead to each other on a number of levels. -/
def policyOf : (levels : Nat) → PolicyEvaluation
  | 0 => fun domain _ => do throwPolicy (.tooDeep (← read).receiver.limits.nesting domain)
  | levels + 1 => evaluatePolicy (policyOf levels)

/-- The number of levels on which policies are evaluated from a depth on. -/
def levelsFrom (limits : Limits) (depth : Int) : Nat := (limits.nesting + 1 - depth).toNat

/-- Evaluates the terms of a record at a depth. -/
def termsAt (depth : Int) (terms : List Term) (domain : String) (explain : Bool) : Evaluation Verdict := do
  let limits := (← read).receiver.limits
  evaluateTerms (policyOf (levelsFrom limits (depth + 1))) terms domain explain

/-- Evaluates the policy of the domain that is checked. -/
def checkedPolicy (domain : String) : Evaluation Verdict := do
  policyOf (levelsFrom (← read).receiver.limits 0) domain true

end SenderPolicy.Evaluation
