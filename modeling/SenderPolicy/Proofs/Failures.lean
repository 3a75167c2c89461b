import SenderPolicy.Proofs.Faults
import SenderPolicy.Proofs.TermOrder

/-! What the evaluation of terms may fail with. Each failure is told with what the terms have to be for it to come
up, so that a record whose terms are known to be otherwise is known not to fail so. -/

namespace SenderPolicy

open Dns Evaluation

variable {σ α β : Type}

/-! ### Failures -/

section
variable (context : Context) (domain : String)

/-- What finding the name to which a term leads may fail with. -/
inductive SpecFailure (spec : String) : Failure → Prop
  | lookups {x : Failure} (h : x.OfLookups) : SpecFailure spec x
  | macroString {e : MacroStringError} (h : readTokens false spec.toList = .error e) :
      SpecFailure spec (.ofMacroString domain spec Record.defaultMarker e)
  | scopedAddress {e : Address.GroupsError} (h : context.address.macroText = .error e) :
      SpecFailure spec (.fault (.scopedAddress e))
  | invalidTarget {target : String} (h : Domain.isValid target = false)
      (ht : spec.toList.contains '%' = true ∨ target = if spec = "" then domain else spec) :
      SpecFailure spec (.policy (.invalidTarget target))

/-- What the test of a directive itself may fail with. -/
inductive Directive.TestFailure (d : Directive) : Failure → Prop
  | lookups {x : Failure} (h : x.OfLookups) : d.TestFailure x
  | target {spec : String} {x : Failure} (ht : d.Targets spec) (h : SpecFailure context domain spec x) : d.TestFailure x
  | cidr {x : Failure} (hm : d.mechanism = .a ∨ d.mechanism = .mx) (h : DualCidr.ofDirective d = .error x) :
      d.TestFailure x
  | network {family : Family} (hm : d.mechanism = .ip4 ∧ family = .v4 ∨ d.mechanism = .ip6 ∧ family = .v6)
      (h : (Network.ofText? d.value).any (·.address.family = family) = false) :
      d.TestFailure (.policy (.network d.value d.mechanism.name))
  | mechanism {name : String} (h : d.mechanism = .unknown name) : d.TestFailure (.fault (.unknownMechanism name))

/-- What an explanation may fail with; errors of policies do not count. -/
inductive Modifier.ExplanationFailure (m : Modifier) : Failure → Prop
  | target {f : Fault} (h : SpecFailure context domain m.macroString (.fault f)) : m.ExplanationFailure (.fault f)
  | notAddress (text : String) : m.ExplanationFailure (.fault (.notAddress text))
  | numeral {e : Text.NumeralError} (h : e.Overlong) : m.ExplanationFailure (.fault (.numeral e))
  | scopedAddress {e : Address.GroupsError} (h : context.address.macroText = .error e) :
      m.ExplanationFailure (.fault (.scopedAddress e))

/-- What the verdict of a matching directive may fail with, if a failure has an explanation or not. -/
inductive Directive.VerdictFailure (d : Directive) (exp : Option Modifier) : Failure → Prop
  | qualifier (h : d.qualifier.result? = none) : d.VerdictFailure exp (.fault (.unknownQualifier d.qualifier.sign))
  | explanation {m : Modifier} {x : Failure} (hm : exp = some m) (h : m.ExplanationFailure context domain x) :
      d.VerdictFailure exp x

/-- What the evaluation of terms may fail with, besides the policies to which they lead. -/
inductive TermsFailure (terms : List Term) : Failure → Prop
  | several {cause : SyntaxError} (h : cause ∈ [SyntaxError.severalRedirects domain, .severalExplanations domain]) :
      TermsFailure terms (.malformed cause)
  | test {d : Directive} {x : Failure} (hd : .directive d ∈ terms) (h : d.TestFailure context domain x) :
      TermsFailure terms x
  | qualifier {d : Directive} (hd : .directive d ∈ terms) (h : d.qualifier.result? = none) :
      TermsFailure terms (.fault (.unknownQualifier d.qualifier.sign))
  | explanation {m : Modifier} {x : Failure} (hm : .modifier m ∈ terms) (he : m.isExplanation = true)
      (h : m.ExplanationFailure context domain x) : TermsFailure terms x
  | redirect {m : Modifier} {x : Failure} (hm : .modifier m ∈ terms) (hr : m.isRedirect = true)
      (h : SpecFailure context domain m.macroString x) : TermsFailure terms x

end

namespace Evaluation

/-! ### Names to which terms lead -/

section
variable {answer : Question → σ → Answer × σ} {context : Context} {P : Failure → Prop} {explaining : Bool} {domain : String}

theorem clientNames_failsOnly (hl : ∀ x : Failure, x.OfLookups → P x) : FailsOnly answer context P clientNames :=
  .reading (.bind (.ofInquiry _) fun r => by
    rcases r with (e | text) | names
    · exact .pure _
    · exact .throw (hl _ (.notAddress text))
    · exact .pure _)

theorem fact_failsOnly (hl : ∀ x : Failure, x.OfLookups → P x)
    (hs : ∀ e, context.address.macroText = .error e → P (.fault (.scopedAddress e))) (letter : Letter) :
    FailsOnly answer context P (fact explaining domain letter) := by
  refine .reading ?_
  cases letter with
  | address =>
    show FailsOnly answer context P (addressText context.address)
    unfold addressText
    cases ha : context.address.macroText with
    | error e => exact .throw (hs e ha)
    | ok text => exact .pure _
  | confirmedName =>
    show FailsOnly answer context P (confirmedName explaining domain)
    unfold confirmedName
    cases explaining
    case' false => refine .bind (.countLookup hl) fun _ => ?_
    all_goals exact (clientNames_failsOnly hl).bind fun r => by cases r <;> exact .pure _
  | _ => exact .pure _

theorem expandTokens_failsOnly (hl : ∀ x : Failure, x.OfLookups → P x)
    (hs : ∀ e, context.address.macroText = .error e → P (.fault (.scopedAddress e))) :
    ∀ tokens, FailsOnly answer context P (expandTokens explaining domain tokens)
  | [] => .pure _
  | .literal _ :: rest => (expandTokens_failsOnly hl hs rest).bind fun _ => .pure _
  | .expansion _ :: rest =>
    (fact_failsOnly hl hs _).bind fun _ => (expandTokens_failsOnly hl hs rest).bind fun _ => .pure _

theorem expand_failsOnly (hl : ∀ x : Failure, x.OfLookups → P x)
    (hs : ∀ e, context.address.macroText = .error e → P (.fault (.scopedAddress e))) {text : String}
    (hm : ∀ e, readTokens explaining text.toList = .error e → P (.ofMacroString domain text Record.defaultMarker e)) :
    FailsOnly answer context P (expand explaining domain text) := by
  unfold expand
  split
  · rename_i e he
    exact .throw (hm e he)
  · exact expandTokens_failsOnly hl hs _

theorem targetName_failsOnly (domain spec : String) :
    FailsOnly answer context (SpecFailure context domain spec) (targetName domain spec) := by
  unfold targetName expandDomainSpec
  cases hc : spec.toList.contains '%' with
  | false =>
    -- without macros there is a single candidate for the target
    have plain : (if spec = "" then Pure.pure domain else if !false then Pure.pure spec else do
        let name ← expand false domain spec
        Pure.pure (Domain.shortened Domain.maxLength name) : Evaluation String) =
          Pure.pure (if spec = "" then domain else spec) := by
      split <;> rfl
    rw [plain, pure_bind]
    cases hv : Domain.isValid (if spec = "" then domain else spec) with
    | true => exact .pure _
    | false => exact .throw (.invalidTarget hv (.inr rfl))
  | true =>
    refine .bind (P := SpecFailure context domain spec) ?_ fun target => ?_
    · split
      · exact .pure _
      · exact (expand_failsOnly (fun _ => .lookups) (fun _ => .scopedAddress) fun _ => .macroString).bind fun _ => .pure _
    · cases hv : Domain.isValid target with
      | true => exact .pure _
      | false => exact .throw (.invalidTarget hv (.inl hc))

theorem countedTarget_failsOnly (domain spec : String) :
    FailsOnly answer context (SpecFailure context domain spec) (countedTarget domain spec) :=
  (FailsOnly.countLookup fun _ => .lookups).bind fun _ => targetName_failsOnly domain spec

/-! ### Tests of directives -/

theorem hostAddresses_failsOnly (hl : ∀ x : Failure, x.OfLookups → P x) (host : String) (family : Family) :
    FailsOnly answer context P (hostAddresses host family) := by
  rw [hostAddresses_eq]
  refine .bind (.ofInquiry _) fun r => ?_
  rcases r with e | found
  · cases e with
    | noSuchDomain => exact (FailsOnly.countVoidLookup hl).bind fun _ => .pure _
    | _ => exact .throw (hl _ (.temporary ..))
  · dsimp only [Except.map, withAddresses]
    split
    · exact (FailsOnly.countVoidLookup hl).bind fun _ => .pure _
    · exact .pure _

theorem isAmong_failsOnly (hl : ∀ x : Failure, x.OfLookups → P x) (cidr : DualCidr) (found : List String) :
    FailsOnly answer context P (isAmong cidr found) := by
  have among : ∀ address length found f, anyShares address length found = .error f → ∃ text, f = .notAddress text := by
    intro address length found f h
    induction found with
    | nil => cases h
    | cons text rest ih =>
      unfold anyShares at h
      split at h
      · cases h
        exact ⟨text, rfl⟩
      · split at h
        · cases h
        · exact ih h
  refine .reading ?_
  dsimp only
  split
  · exact .pure _
  · rename_i f hf
    obtain ⟨text, rfl⟩ := among _ _ _ _ hf
    exact .throw (hl _ (.notAddress text))

theorem anyMailHost_failsOnly (hl : ∀ x : Failure, x.OfLookups → P x) (cidr : DualCidr) :
    ∀ hosts, FailsOnly answer context P (anyMailHost cidr hosts)
  | [] => .pure _
  | host :: rest =>
    .reading ((hostAddresses_failsOnly hl host.hostname _).bind fun found =>
      (isAmong_failsOnly hl cidr found).bind fun matched => by
        cases matched with
        | true => exact .pure _
        | false => exact anyMailHost_failsOnly hl cidr rest)

theorem withMailHosts_failsOnly (hl : ∀ x : Failure, x.OfLookups → P x) (cidr : DualCidr) (target : String)
    (r : Except LookupError (List MailHost)) : FailsOnly answer context P (withMailHosts cidr target r) := by
  rcases r with e | _ | ⟨host, rest⟩
  · cases e with
    | noSuchDomain => exact (FailsOnly.countVoidLookup hl).bind fun _ => .pure _
    | _ => exact .throw (hl _ (.temporary ..))
  · exact (FailsOnly.countVoidLookup hl).bind fun _ => .pure _
  · refine .reading ?_
    dsimp only
    split
    · exact .bind (.throw (hl _ (.tooManyMailHosts ..))) fun _ => anyMailHost_failsOnly hl cidr _
    · exact anyMailHost_failsOnly hl cidr _

section
variable {d : Directive}

/-- The tests that split prefix lengths off a value fail in splitting them, in finding the target, or behind that. -/
theorem cidr_failsOnly (hm : d.mechanism = .a ∨ d.mechanism = .mx) {g : DualCidr → String → Evaluation Bool}
    (hg : ∀ cidr target, FailsOnly answer context (d.TestFailure context domain) (g cidr target)) :
    FailsOnly answer context (d.TestFailure context domain) (do
      countLookup
      let cidr ← ofExcept (DualCidr.ofDirective d)
      let target ← targetName domain cidr.domainSpec
      g cidr target) :=
  .bind (.countLookup fun _ => .lookups) fun _ => .ofExcept_bind (fun _ hx => .cidr hm hx) fun cidr hc =>
    .bind ((targetName_failsOnly domain cidr.domainSpec).mono fun _ hx => .target (.cidr hm hc) hx) fun target =>
      hg cidr target

theorem matchesConfirmedName_failsOnly (hm : d.mechanism = .ptr) :
    FailsOnly answer context (d.TestFailure context domain) (matchesConfirmedName d domain) :=
  .bind (.countLookup fun _ => .lookups) fun _ =>
    .bind ((targetName_failsOnly domain d.value).mono fun _ hx => .target (.value (.inr (.inl hm))) hx) fun target =>
      (clientNames_failsOnly fun _ => .lookups).bind fun r => by cases r <;> exact .pure _

theorem matchesExistence_failsOnly (hm : d.mechanism = .exists) :
    FailsOnly answer context (d.TestFailure context domain) (matchesExistence d domain) :=
  .bind (.countLookup fun _ => .lookups) fun _ =>
    .bind ((targetName_failsOnly domain d.value).mono fun _ hx => .target (.value (.inr (.inr hm))) hx) fun target =>
      (hostAddresses_failsOnly (fun _ => .lookups) target .v4).bind fun _ => .pure _

theorem matchesNetwork_failsOnly {family : Family}
    (hm : d.mechanism = .ip4 ∧ family = .v4 ∨ d.mechanism = .ip6 ∧ family = .v6) :
    FailsOnly answer context (d.TestFailure context domain) (matchesNetwork family d) := by
  unfold matchesNetwork
  cases hn : Network.ofText? d.value with
  | none => exact .throw (.network hm (by simp [hn]))
  | some network =>
    dsimp only
    split
    · exact .reading (.pure _)
    · rename_i other
      exact .throw (.network hm (by simp [hn, other]))

/-- A directive fails in its own ways, or as the policy that it includes. -/
theorem matchesClient_failsOnly {policy : String → Evaluation Verdict} {P : Failure → Prop}
    (hp : ∀ target, FailsOnly answer context P (entering .incl target (policy target))) (d : Directive) (domain : String) :
    FailsOnly answer context (fun x => d.TestFailure context domain x ∨ d.mechanism = .incl ∧ P x)
      (matchesClient policy d domain) := by
  unfold matchesClient
  cases hm : d.mechanism with
  | all => exact .pure _
  | incl =>
    refine FailsOnly.bind (.countLookup fun _ h => .inl (.lookups h)) fun _ => .bind ?_ fun target => .bind ?_ fun _ => .pure _
    · exact (targetName_failsOnly domain d.value).mono fun _ hx => .inl (.target (.value (.inl hm)) hx)
    · exact (hp target).mono fun _ hx => .inr ⟨rfl, hx⟩
  | a =>
    refine FailsOnly.mono (cidr_failsOnly (.inl hm) fun cidr target => .reading ?_) fun _ => .inl
    exact (hostAddresses_failsOnly (fun _ => .lookups) target _).bind fun found => isAmong_failsOnly (fun _ => .lookups) cidr found
  | mx =>
    show FailsOnly answer context _ (matchesMailHost d domain)
    rw [matchesMailHost_eq]
    refine FailsOnly.mono (cidr_failsOnly (.inr hm) fun cidr target => ?_) fun _ => .inl
    exact .bind (.ofInquiry _) fun r => withMailHosts_failsOnly (fun _ => .lookups) cidr target _
  | ptr => exact (matchesConfirmedName_failsOnly hm).mono fun _ => .inl
  | ip4 => exact (matchesNetwork_failsOnly (.inl ⟨hm, rfl⟩)).mono fun _ => .inl
  | ip6 => exact (matchesNetwork_failsOnly (.inr ⟨hm, rfl⟩)).mono fun _ => .inl
  | «exists» => exact (matchesExistence_failsOnly hm).mono fun _ => .inl
  | unknown name => exact .throw (.inl (.mechanism hm))

end

/-! ### Explanations -/

/-- The text of an explanation fails in looking up names, or in a macro string that cannot be read or expanded. -/
theorem explanationAt_failsOnly (m : Modifier) (domain target : String) : FailsOnly answer context
    (fun x => ∀ f, x = .fault f → m.ExplanationFailure context domain (.fault f)) (explanationAt domain target) := by
  refine .bind (.ofInquiry _) fun r => ?_
  split
  · refine .map (expand_failsOnly ?_ ?_ ?_) _
    · rintro x h f rfl
      cases h with
      | notAddress text => exact .notAddress text
    · rintro e he f ⟨⟩
      exact .scopedAddress he
    · intro e he f hf
      cases e with
      | position n => cases hf
      | numeral e =>
        cases hf
        exact .numeral (overlong_of_readTokens he)
  · exact .pure _

theorem explanation_failsOnly (m : Modifier) (domain : String) :
    FailsOnly answer context (m.ExplanationFailure context domain) (explanation m domain) := by
  -- errors of policies are excused, so only of faults is anything to be said
  have faults : ∀ answer : Question → σ → Answer × σ, FailsOnly answer context
      (fun x => ∀ f, x = .fault f → m.ExplanationFailure context domain (.fault f))
      (uncounted (targetName domain m.macroString) >>= explanationAt domain) := by
    refine fun answer => .bind (.uncounted ((targetName_failsOnly domain _).mono ?_)) (explanationAt_failsOnly m domain)
    rintro x hx f rfl
    exact .target hx
  intro w x hx
  rw [exec_explanation] at hx
  dsimp only at hx
  rcases hr : (exec (fun q => answer { q with purpose := .explanation }) context
      (uncounted (targetName domain m.macroString) >>= explanationAt domain) w).1 with (e | f) | text
  · rw [hr] at hx
    cases hx
  · rw [hr] at hx
    cases hx
    exact faults _ w _ hr f rfl
  · rw [hr] at hx
    cases hx

/-! ### Terms -/

theorem directiveVerdict_failsOnly (d : Directive) (exp : Option Modifier) (domain : String) :
    FailsOnly answer context (d.VerdictFailure context domain exp) (directiveVerdict d exp domain) := by
  refine .reading ?_
  dsimp only
  split
  · rename_i hq
    exact .throw (.qualifier hq)
  · exact .pure _
  · cases exp with
    | none => exact .pure _
    | some m => exact ((explanation_failsOnly m domain).mono fun _ => .explanation rfl).bind fun text => .pure _
  · exact .pure _

section
variable {policy : PolicyEvaluation}
  (hp : ∀ reference target explain, FailsOnly answer context P (entering reference target (policy target explain)))
include hp

theorem withoutMatch_failsOnly {redirect : Option Modifier} {terms : List Term}
    (hr : ∀ m, redirect = some m → .modifier m ∈ terms ∧ m.isRedirect = true) (domain : String) (explain : Bool) :
    FailsOnly answer context (fun x => TermsFailure context domain terms x ∨ P x)
      (withoutMatch policy redirect domain explain) := by
  cases redirect with
  | none => exact .pure _
  | some m =>
    obtain ⟨hm, hr⟩ := hr m rfl
    refine .bind (.countLookup fun _ h => .inl (.redirect hm hr (.lookups h))) fun _ => .bind ?_ fun target => ?_
    · exact (targetName_failsOnly domain m.macroString).mono fun _ hx => .inl (.redirect hm hr hx)
    · exact (hp .redirect target explain).mono fun _ => .inr

theorem evaluateDirectives_failsOnly {found : Modifiers} {terms : List Term} {domain : String}
    (hf : collectModifiers domain {} terms = .ok found) (explain : Bool) :
    ∀ rest, (∀ term ∈ rest, term ∈ terms) → FailsOnly answer context (fun x => TermsFailure context domain terms x ∨ P x)
      (evaluateDirectives policy found domain explain rest)
  | [], _ => withoutMatch_failsOnly hp (fun m hm => (mem_of_collectModifiers hf).1 hm) domain explain
  | .modifier _ :: rest, h => evaluateDirectives_failsOnly hf explain rest fun term ht => h term (.tail _ ht)
  | .directive d :: rest, h => by
    refine .bind ((matchesClient_failsOnly (fun target => hp .incl target false) d domain).mono ?_) fun matched => ?_
    · rintro x (hx | ⟨-, hx⟩)
      · exact .inl (.test (h _ (.head _)) hx)
      · exact .inr hx
    · cases matched with
      | true =>
        refine (directiveVerdict_failsOnly d _ domain).mono fun x hx => .inl ?_
        cases hx with
        | qualifier hq => exact .qualifier (h _ (.head _)) hq
        | @explanation m _ hm hx =>
          have shown : found.exp = some m := by cases explain with
            | true => exact hm
            | false => cases hm
          obtain ⟨mem, isExplanation⟩ := (mem_of_collectModifiers hf).2 shown
          exact .explanation mem isExplanation hx
      | false => exact evaluateDirectives_failsOnly hf explain rest fun term ht => h term (.tail _ ht)

/-- Terms fail in their own ways, or as a policy to which they lead. -/
theorem evaluateTerms_failsOnly (terms : List Term) (domain : String) (explain : Bool) :
    FailsOnly answer context (fun x => TermsFailure context domain terms x ∨ P x)
      (evaluateTerms policy terms domain explain) := by
  unfold evaluateTerms
  cases hf : collectModifiers domain {} terms with
  | error e =>
    rcases collectModifiers_several hf with rfl | rfl
    · exact .throw (.inl (.several (.head _)))
    · exact .throw (.inl (.several (.tail _ (.head _))))
  | ok found => exact evaluateDirectives_failsOnly hp hf explain terms fun _ => id

end

end

end Evaluation

end SenderPolicy
