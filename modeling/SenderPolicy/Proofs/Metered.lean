import Mathlib.Data.ENat.Basic
import SenderPolicy.Proofs.Composed
import SenderPolicy.Proofs.TextErrors
import SenderPolicy.Proofs.Visit

/-! Metered evaluations: what may be asked is paid for by lookups that have been counted before, and of the answers
only that is used which does not depend on the order of records. That the evaluation of a policy is put together so is
shown once (`policyOf_metered`). What the order of records may change, how many questions a check may ask and which
errors may come of a term follow from it by one induction each. -/

namespace SenderPolicy

open Dns

variable {α β : Type}

/-- The failure says that a policy is missing. -/
def Failure.IsMissing (x : Failure) : Prop := ∃ cause, x = .policy (.noPolicy cause)

theorem Failure.IsTextual.not_isMissing {x : Failure} (h : x.IsTextual) : ¬ x.IsMissing := by
  rintro ⟨cause, rfl⟩
  exact h

/-- The number of questions that one counted lookup pays for: one for the records of its target, and one for each
mail host or each host name of the client. -/
def Limits.batch (limits : Limits) : Nat := 1 + max limits.mailHosts.toNat limits.pointers.toNat

namespace Evaluation

/-! ### What lookups are used for -/

/-- The only text record of a name, if there is a single one. -/
def soleText (target : String) : Evaluation (Option String) := do
  match ← attempt (texts .explanation target) with
  | .ok [text] => pure (some text)
  | _ => pure none

theorem explanationAt_eq (domain target : String) :
    explanationAt domain target = (do
      match ← soleText target with
      | some text => some <$> expand true domain text
      | none => pure none) := by
  unfold explanationAt soleText
  rw [bind_assoc]
  refine congrArg _ (funext fun r => ?_)
  rcases r with e | _ | ⟨text, _ | ⟨other, rest⟩⟩ <;> rfl

/-! ### Metered evaluations -/

/-- An evaluation that asks for at most a number of answers besides those for which it counts lookups. If a flag is
set, it may fail because a policy is missing. -/
inductive Metered (limits : Limits) : {α : Type} → (missable : Bool) → (price : ENat) → Evaluation α → Prop
  | pure {α : Type} {missable : Bool} (a : α) : Metered limits missable 0 (pure a)
  | throw {α : Type} {missable : Bool} {x : Failure} (hx : ¬ x.IsMissing) :
      Metered limits missable 0 (throw x : Evaluation α)
  | reading {α : Type} {missable : Bool} {n : ENat} {f : Context → Evaluation α}
      (hf : ∀ context, context.receiver.limits = limits → Metered limits missable n (f context)) :
      Metered limits missable n (read >>= f)
  | countVoidLookup {missable : Bool} : Metered limits missable 0 countVoidLookup
  | counted {α : Type} {missable : Bool} {f : Unit → Evaluation α} (h : Metered limits missable limits.batch (f ())) :
      Metered limits missable 0 (countLookup >>= f)
  | addresses {missable : Bool} (host : String) (family : Family) :
      Metered limits missable 1 (attempt (addresses .mechanism host [family]))
  /-- Why the mail hosts cannot be had makes no difference, unless there is no such domain. -/
  | mailHosts {α : Type} {missable : Bool} {n : ENat} (target : String) {f : Except LookupError (List MailHost) → Evaluation α}
      (he : ∀ e, e ≠ .noSuchDomain → f (.error e) = MonadExcept.throw (.policy (.temporary target e)))
      (hf : ∀ r, Metered limits missable n (f r)) :
      Metered limits missable (1 + n) (attempt (records ⟨target, .mx, .mechanism⟩) >>= fun r => f (r.bind readMailHosts))
  | names {missable : Bool} (address : Address) :
      Metered limits missable (1 + limits.pointers.toNat)
        (ofInquiry (confirmedNames .confirmation limits.pointers address).run)
  | text {missable : Bool} (target : String) : Metered limits missable 1 (soleText target)
  | terms (domain : String) : Metered limits true 1 (policyTerms domain)
  | bind {α β : Type} {missable : Bool} {n k : ENat} {e : Evaluation α} {f : α → Evaluation β}
      (h : Metered limits missable n e) (hf : ∀ a, Metered limits missable k (f a)) :
      Metered limits missable (n + k) (e >>= f)
  | entering {missable : Bool} {n : ENat} {reference : Reference} {target : String} {policy : Evaluation Verdict}
      (h : Metered limits true n policy) : Metered limits missable n (entering reference target policy)
  /-- The questions of an explanation have no price. -/
  | explaining {missable : Bool} {n : ENat} {k : ENat} {e : Evaluation String} {f : String → Evaluation (Option String)}
      (h : Metered limits false n e) (hf : ∀ a, Metered limits false k (f a)) :
      Metered limits missable 0 (askedFor .explanation (tryCatch (uncounted e >>= f) excused))
  | dearer {α : Type} {missable : Bool} {n k : ENat} {e : Evaluation α} (h : Metered limits missable n e) (hk : n ≤ k) :
      Metered limits missable k e

section
variable {limits : Limits} {missable : Bool} {n k : ENat}

namespace Metered

theorem of_free {e : Evaluation α} (h : Metered limits missable 0 e) : Metered limits missable n e :=
  h.dearer zero_le

theorem free_bind {e : Evaluation α} {f : α → Evaluation β} (h : Metered limits missable 0 e)
    (hf : ∀ a, Metered limits missable k (f a)) : Metered limits missable k (e >>= f) :=
  zero_add k ▸ h.bind hf

theorem bind_free {e : Evaluation α} {f : α → Evaluation β} (h : Metered limits missable n e)
    (hf : ∀ a, Metered limits missable 0 (f a)) : Metered limits missable n (e >>= f) :=
  add_zero n ▸ h.bind hf

theorem map {e : Evaluation α} (h : Metered limits missable n e) (f : α → β) : Metered limits missable n (f <$> e) := by
  rw [← bind_pure_comp]
  exact h.bind_free fun a => .pure (f a)

theorem ofExcept {r : Except Failure α} (hr : Textual r) : Metered limits missable 0 (ofExcept r) := by
  cases r with
  | error x => exact .throw (hr x rfl).not_isMissing
  | ok a => exact .pure a

theorem throwPolicy {e : PolicyError} (he : ∀ cause, e ≠ .noPolicy cause) :
    Metered limits missable 0 (throwPolicy e : Evaluation α) :=
  .throw fun ⟨cause, h⟩ => he cause (Failure.policy.inj h)

theorem throwFault (f : Fault) : Metered limits missable 0 (throwFault f : Evaluation α) := .throw fun ⟨_, h⟩ => nomatch h

theorem counted_of_le {f : Unit → Evaluation α} (h : Metered limits missable n (f ())) (hn : n ≤ limits.batch) :
    Metered limits missable 0 (countLookup >>= f) :=
  .counted (h.dearer hn)

end Metered

theorem one_le_batch : (1 : ENat) ≤ limits.batch := by
  unfold Limits.batch
  exact_mod_cast Nat.le_add_right 1 _

theorem mailHosts_le_batch : (1 + limits.mailHosts.toNat : ENat) ≤ limits.batch := by
  unfold Limits.batch
  exact_mod_cast Nat.add_le_add_left (Nat.le_max_left ..) 1

theorem pointers_le_batch : (1 + limits.pointers.toNat : ENat) ≤ limits.batch := by
  unfold Limits.batch
  exact_mod_cast Nat.add_le_add_left (Nat.le_max_right ..) 1

/-! ### Macro strings -/

/-- What expanding a macro string may cost: nothing, unless the lookups for it are not counted. -/
def toll (explaining : Bool) : ENat := if explaining then ⊤ else 0

theorem toll_add_toll (explaining : Bool) : toll explaining + toll explaining = toll explaining := by
  cases explaining <;> rfl

theorem clientNames_metered : Metered limits missable (1 + limits.pointers.toNat) clientNames :=
  .reading fun context hc => by
    subst hc
    refine (Metered.names context.address).bind_free fun r => ?_
    rcases r with (e | text) | names
    · exact .pure _
    · exact .throwFault _
    · exact .pure _

theorem confirmedName_metered (explaining : Bool) (domain : String) :
    Metered limits missable (toll explaining) (confirmedName explaining domain) := by
  unfold confirmedName
  cases explaining
  case' true => refine Metered.dearer (n := 1 + limits.pointers.toNat) ?_ le_top
  case' false => refine .counted_of_le ?_ pointers_le_batch
  all_goals exact clientNames_metered.bind_free fun r => by cases r <;> exact .pure _

theorem fact_metered (explaining : Bool) (domain : String) (letter : Letter) :
    Metered limits missable (toll explaining) (fact explaining domain letter) := by
  refine .reading fun context _ => ?_
  cases letter with
  | address =>
    show Metered limits missable _ (addressText context.address)
    unfold addressText
    cases context.address.macroText with
    | error e => exact (Metered.throwFault _).of_free
    | ok text => exact (Metered.pure _).of_free
  | confirmedName => exact confirmedName_metered explaining domain
  | _ => exact (Metered.pure _).of_free

theorem expandTokens_metered (explaining : Bool) (domain : String) :
    ∀ tokens, Metered limits missable (toll explaining) (expandTokens explaining domain tokens)
  | [] => (Metered.pure _).of_free
  | .literal _ :: rest => (expandTokens_metered explaining domain rest).bind_free fun _ => .pure _
  | .expansion _ :: rest =>
    toll_add_toll explaining ▸ (fact_metered explaining domain _).bind fun _ =>
      (expandTokens_metered explaining domain rest).bind_free fun _ => .pure _

theorem expand_metered (explaining : Bool) (domain text : String) :
    Metered limits missable (toll explaining) (expand explaining domain text) := by
  unfold expand
  split
  · exact (Metered.throw (isTextual_ofMacroString ..).not_isMissing).of_free
  · exact expandTokens_metered explaining domain _

theorem targetName_metered (domain spec : String) : Metered limits missable 0 (targetName domain spec) := by
  refine .free_bind ?_ fun target => ?_
  · unfold expandDomainSpec
    split
    · exact .pure _
    · split
      · exact .pure _
      · exact (expand_metered false domain spec).bind_free fun _ => .pure _
  · split
    · exact .pure _
    · exact .throwPolicy nofun

theorem explanationAt_metered (domain target : String) : Metered limits missable ⊤ (explanationAt domain target) := by
  rw [explanationAt_eq]
  refine .dearer (.bind (k := ⊤) (.text target) fun r => ?_) le_top
  cases r with
  | none => exact (Metered.pure _).of_free
  | some text => exact (expand_metered true domain text).map _

theorem explanation_metered (m : Modifier) (domain : String) : Metered limits missable 0 (explanation m domain) := by
  rw [explanation_eq]
  exact .explaining (targetName_metered domain _) fun target => explanationAt_metered domain target

/-! ### Tests of directives -/

theorem hostAddresses_metered (host : String) (family : Family) : Metered limits missable 1 (hostAddresses host family) :=
  (Metered.addresses host family).bind_free fun r => by
    rcases r with e | found
    · cases e with
      | noSuchDomain => exact Metered.countVoidLookup.bind_free fun _ => .pure _
      | _ => exact .throwPolicy nofun
    · dsimp only
      split
      · exact Metered.countVoidLookup.bind_free fun _ => .pure _
      · exact .pure _

theorem isAmong_metered (cidr : DualCidr) (found : List String) : Metered limits missable 0 (isAmong cidr found) :=
  .reading fun context _ => by
    dsimp only
    split
    · exact .pure _
    · exact .throwFault _

theorem matchesHost_metered (d : Directive) (domain : String) : Metered limits missable 0 (matchesHost d domain) :=
  .counted_of_le (.free_bind (.ofExcept textual_ofDirective) fun cidr => .free_bind (targetName_metered domain _)
    fun target => .reading fun _ _ => (hostAddresses_metered target _).bind_free fun found => isAmong_metered cidr found)
    one_le_batch

theorem anyMailHost_metered (cidr : DualCidr) : ∀ hosts : List MailHost,
    Metered limits missable hosts.length (anyMailHost cidr hosts)
  | [] => .pure _
  | host :: rest => by
    refine .reading fun context _ => ?_
    rw [List.length_cons, Nat.cast_succ, add_comm]
    refine .bind (hostAddresses_metered host.hostname _) fun found => .free_bind (isAmong_metered cidr found) fun matched => ?_
    cases matched with
    | true => exact (Metered.pure _).of_free
    | false => exact anyMailHost_metered cidr rest

theorem throwPolicy_bind (e : PolicyError) (f : α → Evaluation β) : throwPolicy e >>= f = throwPolicy e := rfl

/-- More mail hosts than are allowed are not asked for. -/
theorem withMailHosts_metered (cidr : DualCidr) (target : String) (r : Except LookupError (List MailHost)) :
    Metered limits missable limits.mailHosts.toNat (withMailHosts cidr target r) := by
  have nothing : Metered limits missable limits.mailHosts.toNat (countVoidLookup >>= fun _ => pure false) :=
    (Metered.countVoidLookup.bind_free fun _ => .pure _).of_free
  rcases r with e | _ | ⟨host, rest⟩
  · cases e with
    | noSuchDomain => exact nothing
    | _ =>
      refine .of_free ?_
      exact .throwPolicy nofun
  · exact nothing
  · refine .reading fun context hc => ?_
    subst hc
    dsimp only
    split
    · rw [throwPolicy_bind]
      refine .of_free ?_
      exact .throwPolicy nofun
    · rename_i few
      refine (anyMailHost_metered cidr (host :: rest)).dearer (Nat.cast_le.mpr ?_)
      omega

theorem matchesMailHost_metered (d : Directive) (domain : String) :
    Metered limits missable 0 (matchesMailHost d domain) := by
  rw [matchesMailHost_eq]
  refine .counted_of_le (.free_bind (.ofExcept textual_ofDirective) fun cidr => .free_bind (targetName_metered domain _)
    fun target => .mailHosts target (fun e he => ?_) (withMailHosts_metered cidr target)) mailHosts_le_batch
  cases e with
  | noSuchDomain => exact absurd rfl he
  | _ => rfl

theorem matchesConfirmedName_metered (d : Directive) (domain : String) :
    Metered limits missable 0 (matchesConfirmedName d domain) :=
  .counted_of_le (.free_bind (targetName_metered domain _) fun target =>
    clientNames_metered.bind_free fun r => by cases r <;> exact .pure _) pointers_le_batch

theorem matchesExistence_metered (d : Directive) (domain : String) :
    Metered limits missable 0 (matchesExistence d domain) :=
  .counted_of_le (.free_bind (targetName_metered domain _) fun target =>
    (hostAddresses_metered target .v4).bind_free fun _ => .pure _) one_le_batch

theorem matchesNetwork_metered (family : Family) (d : Directive) :
    Metered limits missable 0 (matchesNetwork family d) := by
  unfold matchesNetwork
  split
  · exact .throwPolicy nofun
  · split
    · exact .reading fun _ _ => .pure _
    · exact .throwPolicy nofun

theorem matchesClient_metered {policy : String → Evaluation Verdict} (hp : ∀ target, Metered limits true 1 (policy target))
    (d : Directive) (domain : String) : Metered limits missable 0 (matchesClient policy d domain) := by
  unfold matchesClient
  split
  · exact .pure _
  · exact .counted_of_le (.free_bind (targetName_metered domain _) fun target =>
      (Metered.entering (hp target)).bind_free fun _ => .pure _) one_le_batch
  · exact matchesHost_metered d domain
  · exact matchesMailHost_metered d domain
  · exact matchesConfirmedName_metered d domain
  · exact matchesNetwork_metered .v4 d
  · exact matchesNetwork_metered .v6 d
  · exact matchesExistence_metered d domain
  · exact .throwFault _

/-! ### Policies -/

theorem directiveVerdict_metered (d : Directive) (exp : Option Modifier) (domain : String) :
    Metered limits missable 0 (directiveVerdict d exp domain) := by
  refine .reading fun context _ => ?_
  dsimp only
  split
  · exact .throwFault _
  · exact .pure _
  · cases exp with
    | none => exact .pure _
    | some m => exact (explanation_metered m domain).bind_free fun _ => .pure _
  · exact .pure _

section
variable {policy : PolicyEvaluation} (hp : ∀ target explain, Metered limits true 1 (policy target explain))
include hp

theorem withoutMatch_metered (redirect : Option Modifier) (domain : String) (explain : Bool) :
    Metered limits missable 0 (withoutMatch policy redirect domain explain) := by
  cases redirect with
  | none => exact .pure _
  | some m =>
    exact .counted_of_le (.free_bind (targetName_metered domain _) fun target => .entering (hp target explain)) one_le_batch

theorem evaluateDirectives_metered (found : Modifiers) (domain : String) (explain : Bool) :
    ∀ terms, Metered limits missable 0 (evaluateDirectives policy found domain explain terms)
  | [] => withoutMatch_metered hp found.redirect domain explain
  | .modifier _ :: rest => evaluateDirectives_metered found domain explain rest
  | .directive d :: rest =>
    .free_bind (matchesClient_metered (fun target => hp target false) d domain) fun matched => by
      cases matched with
      | true => exact directiveVerdict_metered d _ domain
      | false => exact evaluateDirectives_metered found domain explain rest

theorem evaluateTerms_metered (terms : List Term) (domain : String) (explain : Bool) :
    Metered limits missable 0 (evaluateTerms policy terms domain explain) := by
  unfold evaluateTerms
  split
  · rename_i he
    rcases collectModifiers_several he with rfl | rfl <;> exact .throwPolicy nofun
  · exact evaluateDirectives_metered hp _ domain explain terms

end

/-- The evaluation of a policy asks for its record, and otherwise only for what it has counted lookups for. -/
theorem policyOf_metered : ∀ (levels : Nat) (domain : String) (explain : Bool),
    Metered limits true 1 (policyOf levels domain explain)
  | 0, _, _ => .reading fun _ _ => Metered.of_free (.throwPolicy fun _ h => nomatch h)
  | levels + 1, domain, explain => by
    rw [policyOf_succ]
    refine (Metered.terms domain).bind_free fun terms => ?_
    split
    · exact .pure _
    · exact evaluateTerms_metered (policyOf_metered levels) terms domain explain

end

end Evaluation

end SenderPolicy
