import SenderPolicy.Proofs.Composed
import SenderPolicy.Proofs.Visit

/-! Itemized evaluations: every lookup that tests a mechanism stands together with the counting of what it has not found,
and only where it looks for the record of a policy does an evaluation regard whether the receiver is strict. That the
evaluation of a policy is put together so is shown once (`policyOf_itemized`). What a strict receiver changes and what is
counted as having found nothing follow from it by one induction each. -/

namespace SenderPolicy

open Dns

variable {α β γ : Type}

/-- The context for a receiver that is strict or not. -/
def Context.withStrictness (context : Context) (strict : Bool) : Context := { context with receiver.strict := strict }

namespace Evaluation

/-! ### Lookups and their counting -/

/-- What a lookup for a name has found; that it has found nothing is counted. -/
def tallied (name : String) : Except LookupError (List γ) → Evaluation (List γ)
  | .error .noSuchDomain => do countVoidLookup; pure []
  | .error e => throwPolicy (.temporary name e)
  | .ok found => do
    if found.isEmpty then countVoidLookup
    pure found

theorem hostAddresses_eq_tallied (host : String) (family : Family) :
    hostAddresses host family = attempt (records ⟨host, addressType family, .mechanism⟩) >>= fun r =>
      tallied host (r.map (sorted textLE)) := by
  rw [hostAddresses_eq]
  refine congrArg _ (funext fun r => ?_)
  rcases r with e | found
  · cases e <;> rfl
  · rfl

/-- The client has an address of one of the mail hosts of a target, of which no more are asked for than are allowed. -/
def amongMailHosts (cidr : DualCidr) (target : String) : List MailHost → Evaluation Bool
  | [] => pure false
  | hosts => do
    let limit := (← read).receiver.limits.mailHosts
    if (hosts.length : Int) > limit then throwPolicy (.tooManyMailHosts target limit hosts.length)
    anyMailHost cidr hosts

theorem withMailHosts_eq (cidr : DualCidr) (target : String) (r : Except LookupError (List MailHost)) :
    withMailHosts cidr target r = tallied target r >>= amongMailHosts cidr target := by
  have nothing : (do countVoidLookup; pure false) = (do countVoidLookup; pure []) >>= amongMailHosts cidr target := by
    rw [bind_assoc]
    rfl
  rcases r with e | _ | ⟨host, rest⟩
  · cases e with
    | noSuchDomain => exact nothing
    | _ => rfl
  · exact nothing
  · rfl

theorem matchesMailHost_eq_tallied (d : Directive) (domain : String) :
    matchesMailHost d domain = (do
      countLookup
      let cidr ← ofExcept (DualCidr.ofDirective d)
      let target ← targetName domain cidr.domainSpec
      let hosts ← attempt (records ⟨target, .mx, .mechanism⟩) >>= fun r => tallied target (r.bind readMailHosts)
      amongMailHosts cidr target hosts) := by
  rw [matchesMailHost_eq]
  simp only [withMailHosts_eq, bind_assoc]

/-! ### Itemized evaluations -/

/-- An evaluation that counts each lookup that has found nothing right behind it. Unless a flag is set, it reads no
record of a policy, and if it does not, it does not regard whether the receiver is strict. Unless another flag is set, it
tests no mechanism by a lookup. -/
inductive Itemized : {α : Type} → (reads tests : Bool) → Evaluation α → Prop
  | pure {α : Type} {reads tests : Bool} (a : α) : Itemized reads tests (pure a)
  | throw {α : Type} {reads tests : Bool} (x : Failure) : Itemized reads tests (throw x : Evaluation α)
  | reading {α : Type} {reads tests : Bool} {f : Context → Evaluation α}
      (h : ∀ context strict, f (context.withStrictness strict) = f context)
      (hf : ∀ context, Itemized reads tests (f context)) : Itemized reads tests (read >>= f)
  | countLookup {reads tests : Bool} : Itemized reads tests countLookup
  | ask {α : Type} {reads tests : Bool} {i : Inquiry α} (h : i.AsksOnly Question.Aside) :
      Itemized reads tests (ofInquiry i)
  | addresses {reads : Bool} (host : String) (family : Family) :
      Itemized reads true (attempt (records ⟨host, addressType family, .mechanism⟩) >>= fun r =>
        tallied host (r.map (sorted textLE)))
  | mailHosts {reads : Bool} (target : String) :
      Itemized reads true (attempt (records ⟨target, .mx, .mechanism⟩) >>= fun r => tallied target (r.bind readMailHosts))
  | terms {tests : Bool} (domain : String) : Itemized true tests (policyTerms domain)
  | bind {α β : Type} {reads tests : Bool} {e : Evaluation α} {f : α → Evaluation β} (h : Itemized reads tests e)
      (hf : ∀ a, Itemized reads tests (f a)) : Itemized reads tests (e >>= f)
  | entering {tests : Bool} {reference : Reference} {target : String} {policy : Evaluation Verdict}
      (h : Itemized true tests policy) : Itemized true tests (entering reference target policy)
  | explaining {reads tests : Bool} (m : Modifier) (domain : String)
      (h : Itemized false false (targetName domain m.macroString))
      (hf : ∀ target, Itemized false false (explanationAt domain target)) : Itemized reads tests (explanation m domain)

variable {reads tests : Bool}

theorem Itemized.map {e : Evaluation α} (h : Itemized reads tests e) (f : α → β) : Itemized reads tests (f <$> e) := by
  rw [← bind_pure_comp]
  exact h.bind fun a => .pure (f a)

theorem Itemized.ofExcept (x : Except Failure α) : Itemized reads tests (ofExcept x) := by
  cases x with
  | error e => exact .throw e
  | ok a => exact .pure a

/-! ### Macro strings -/

theorem clientNames_itemized : Itemized reads tests clientNames := by
  refine .reading (fun _ _ => rfl) fun context => .bind (.ask (confirmedNames_asksOnly ?_ ?_)) fun r => ?_
  · exact fun name => ⟨fun _ => nofun, nofun⟩
  · exact fun name => ⟨addressType_ne_other _, nofun⟩
  · rcases r with (e | text) | names
    · exact .pure _
    · exact .throw _
    · exact .pure _

theorem confirmedName_itemized (explanation : Bool) (domain : String) :
    Itemized reads tests (confirmedName explanation domain) := by
  unfold confirmedName
  cases explanation
  case' false => refine Itemized.countLookup.bind fun _ => ?_
  all_goals exact clientNames_itemized.bind fun r => by cases r <;> exact .pure _

theorem fact_itemized (explanation : Bool) (domain : String) (letter : Letter) :
    Itemized reads tests (fact explanation domain letter) := by
  refine .reading (fun _ _ => rfl) fun context => ?_
  cases letter with
  | address =>
    show Itemized reads tests (addressText context.address)
    unfold addressText
    cases context.address.macroText with
    | error e => exact .throw _
    | ok text => exact .pure _
  | confirmedName => exact confirmedName_itemized explanation domain
  | _ => exact .pure _

theorem expandTokens_itemized (explanation : Bool) (domain : String) :
    ∀ tokens, Itemized reads tests (expandTokens explanation domain tokens)
  | [] => .pure _
  | .literal _ :: rest => (expandTokens_itemized explanation domain rest).bind fun _ => .pure _
  | .expansion _ :: rest =>
    (fact_itemized explanation domain _).bind fun _ => (expandTokens_itemized explanation domain rest).bind fun _ => .pure _

theorem expand_itemized (explanation : Bool) (domain text : String) : Itemized reads tests (expand explanation domain text) := by
  unfold expand
  split
  · exact .throw _
  · exact expandTokens_itemized explanation domain _

theorem targetName_itemized (domain spec : String) : Itemized reads tests (targetName domain spec) := by
  refine .bind ?_ fun target => ?_
  · unfold expandDomainSpec
    split
    · exact .pure _
    · split
      · exact .pure _
      · exact (expand_itemized false domain spec).bind fun _ => .pure _
  · split
    · exact .pure _
    · exact .throw _

theorem explanationAt_itemized (domain target : String) : Itemized reads tests (explanationAt domain target) :=
  .bind (.ask (texts_asksOnly ⟨fun _ => nofun, nofun⟩)) fun r => by
    split
    · exact (expand_itemized true domain _).map _
    · exact .pure _

theorem explanation_itemized (m : Modifier) (domain : String) : Itemized reads tests (explanation m domain) :=
  .explaining m domain (targetName_itemized domain _) (explanationAt_itemized domain)

/-! ### Tests of directives -/

theorem hostAddresses_itemized (host : String) (family : Family) : Itemized reads true (hostAddresses host family) := by
  rw [hostAddresses_eq_tallied]
  exact .addresses host family

theorem isAmong_itemized (cidr : DualCidr) (found : List String) : Itemized reads tests (isAmong cidr found) :=
  .reading (fun _ _ => rfl) fun context => by
    dsimp only
    split
    · exact .pure _
    · exact .throw _

theorem matchesHost_itemized (d : Directive) (domain : String) : Itemized reads true (matchesHost d domain) :=
  .bind .countLookup fun _ => .bind (.ofExcept _) fun cidr => .bind (targetName_itemized domain _) fun target =>
    .reading (fun _ _ => rfl) fun _ => .bind (hostAddresses_itemized target _) fun found => isAmong_itemized cidr found

theorem anyMailHost_itemized (cidr : DualCidr) : ∀ hosts, Itemized reads true (anyMailHost cidr hosts)
  | [] => .pure _
  | host :: rest =>
    .reading (fun _ _ => rfl) fun context => .bind (hostAddresses_itemized host.hostname _) fun found =>
      .bind (isAmong_itemized cidr found) fun matched => by
        cases matched with
        | true => exact .pure _
        | false => exact anyMailHost_itemized cidr rest

theorem amongMailHosts_itemized (cidr : DualCidr) (target : String) :
    ∀ hosts, Itemized reads true (amongMailHosts cidr target hosts)
  | [] => .pure _
  | host :: rest =>
    .reading (fun _ _ => rfl) fun context => by
      dsimp only
      split
      · exact .bind (.throw _) fun _ => anyMailHost_itemized cidr _
      · exact anyMailHost_itemized cidr _

theorem matchesMailHost_itemized (d : Directive) (domain : String) : Itemized reads true (matchesMailHost d domain) := by
  rw [matchesMailHost_eq_tallied]
  exact .bind .countLookup fun _ => .bind (.ofExcept _) fun cidr => .bind (targetName_itemized domain _) fun target =>
    .bind (.mailHosts target) fun hosts => amongMailHosts_itemized cidr target hosts

theorem matchesConfirmedName_itemized (d : Directive) (domain : String) : Itemized reads tests (matchesConfirmedName d domain) :=
  .bind .countLookup fun _ => .bind (targetName_itemized domain _) fun target =>
    .bind clientNames_itemized fun r => by cases r <;> exact .pure _

theorem matchesExistence_itemized (d : Directive) (domain : String) : Itemized reads true (matchesExistence d domain) :=
  .bind .countLookup fun _ => .bind (targetName_itemized domain _) fun target =>
    .bind (hostAddresses_itemized target .v4) fun _ => .pure _

theorem matchesNetwork_itemized (family : Family) (d : Directive) : Itemized reads tests (matchesNetwork family d) := by
  unfold matchesNetwork
  split
  · exact .throw _
  · split
    · exact .reading (fun _ _ => rfl) fun _ => .pure _
    · exact .throw _

/-- The test of a directive other than an include reads no record of a policy; only a host, a mail host or existence is
tested by a lookup. -/
theorem matchesClient_itemized_of_ne {policy : String → Evaluation Verdict} {d : Directive} (hd : d.mechanism ≠ .incl)
    (ht : d.mechanism ∈ [.a, .mx, .exists] → tests = true) (domain : String) :
    Itemized reads tests (matchesClient policy d domain) := by
  unfold matchesClient
  split
  · exact .pure _
  · rename_i hi
    exact absurd hi hd
  · obtain rfl := ht (by simp [*])
    exact matchesHost_itemized d domain
  · obtain rfl := ht (by simp [*])
    exact matchesMailHost_itemized d domain
  · exact matchesConfirmedName_itemized d domain
  · exact matchesNetwork_itemized .v4 d
  · exact matchesNetwork_itemized .v6 d
  · obtain rfl := ht (by simp [*])
    exact matchesExistence_itemized d domain
  · exact .throw _

theorem countedTarget_itemized (domain spec : String) : Itemized reads tests (countedTarget domain spec) :=
  .bind .countLookup fun _ => targetName_itemized domain spec

theorem matchesClient_itemized {policy : String → Evaluation Verdict} (hp : ∀ target, Itemized true true (policy target))
    (d : Directive) (domain : String) : Itemized true true (matchesClient policy d domain) := by
  by_cases h : d.mechanism = .incl
  · unfold matchesClient
    rw [h]
    exact .bind .countLookup fun _ => .bind (targetName_itemized domain _) fun target =>
      .bind (.entering (hp target)) fun _ => .pure _
  · exact matchesClient_itemized_of_ne h (fun _ => rfl) domain

/-! ### Policies -/

theorem directiveVerdict_itemized (d : Directive) (exp : Option Modifier) (domain : String) :
    Itemized reads tests (directiveVerdict d exp domain) := by
  refine .reading (fun _ _ => rfl) fun context => ?_
  dsimp only
  split
  · exact .throw _
  · exact .pure _
  · cases exp with
    | none => exact .pure _
    | some m => exact (explanation_itemized m domain).bind fun _ => .pure _
  · exact .pure _

section
variable {policy : PolicyEvaluation} (hp : ∀ target explain, Itemized true true (policy target explain))
include hp

theorem withoutMatch_itemized (redirect : Option Modifier) (domain : String) (explain : Bool) :
    Itemized true true (withoutMatch policy redirect domain explain) := by
  cases redirect with
  | none => exact .pure _
  | some m =>
    exact .bind .countLookup fun _ => .bind (targetName_itemized domain _) fun target => .entering (hp target explain)

theorem evaluateDirectives_itemized (found : Modifiers) (domain : String) (explain : Bool) :
    ∀ terms, Itemized true true (evaluateDirectives policy found domain explain terms)
  | [] => withoutMatch_itemized hp found.redirect domain explain
  | .modifier _ :: rest => evaluateDirectives_itemized found domain explain rest
  | .directive d :: rest =>
    .bind (matchesClient_itemized (fun target => hp target false) d domain) fun matched => by
      cases matched with
      | true => exact directiveVerdict_itemized d _ domain
      | false => exact evaluateDirectives_itemized found domain explain rest

theorem evaluateTerms_itemized (terms : List Term) (domain : String) (explain : Bool) :
    Itemized true true (evaluateTerms policy terms domain explain) := by
  unfold evaluateTerms
  split
  · exact .throw _
  · exact evaluateDirectives_itemized hp _ domain explain terms

end

/-- The evaluation of a policy is itemized. -/
theorem policyOf_itemized : ∀ (levels : Nat) (domain : String) (explain : Bool),
    Itemized true true (policyOf levels domain explain)
  | 0, _, _ => .reading (fun _ _ => rfl) fun _ => .throw _
  | levels + 1, domain, explain => by
    rw [policyOf_succ]
    refine (Itemized.terms domain).bind fun terms => ?_
    split
    · exact .pure _
    · exact evaluateTerms_itemized (policyOf_itemized levels) terms domain explain

end Evaluation

end SenderPolicy
