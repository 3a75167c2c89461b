import SenderPolicy.Proofs.Failures
import SenderPolicy.Proofs.Grammar
import SenderPolicy.Proofs.LetterCase

/-! What is read can be run. The checks of a record foresee what the tests of its directives do with it: if the record
is in ASCII, every directive has a mechanism that exists, with a separator and a value as that mechanism has them, no
network, prefix length or macro string of it is met that cannot be read, and a name without macros is a domain name. -/

namespace SenderPolicy

open Dns Evaluation Text

variable {σ : Type}

/-! ### Directives -/

/-- The directive has a mechanism that exists, and the separator and value that this may have. -/
def Directive.Grammatical (d : Directive) : Prop :=
  match d.mechanism with
  | .all => d.separator = .absent ∧ d.value = ""
  | .incl | .exists | .ip4 | .ip6 => d.separator = .colon ∧ d.value ≠ ""
  | .ptr => d.separator = .absent ∧ d.value = "" ∨ d.separator = .colon ∧ d.value ≠ ""
  | .a | .mx => d.separator = .absent ∧ d.value = "" ∨ d.separator ≠ .absent ∧ d.value ≠ ""
  | .unknown _ => False

theorem Mechanism.mem_known {m : Mechanism} (h : ∀ name, m ≠ .unknown name) : m ∈ known := by
  cases m with
  | unknown name => exact absurd rfl (h name)
  | _ => simp [known]

theorem value_of_valueAt_absent {s : List Char} {value : String} (h : valueAt s = some (.absent, value)) : value = "" := by
  rcases valueAt_some h with ⟨-, none, -⟩ | ⟨rest, line, ⟨separated, -⟩ | ⟨separated, -⟩, -⟩
  · exact none
  · cases separated
  · cases separated

section
variable {text : String} {d : Directive}

/-- A directive in ASCII has a mechanism that exists. -/
theorem Directive.mem_known_of_ofText? (ascii : MadeOf IsAscii text) (h : ofText? text = some d) :
    d.mechanism ∈ Mechanism.known := by
  obtain ⟨name, hm, -, hd⟩ := ofText?_some h
  have mechanism : d.mechanism = Mechanism.ofName name := by rw [hd]
  obtain ⟨m, known, taken, rest, ht, hn, -⟩ := mechanismAt_some hm
  obtain ⟨whole, -⟩ := isNameChar_of_takeFolded (fun letter hl c => isNameChar_of_foldsTo known hl) ht
  have letters : MadeOf IsAscii name := by
    rw [hn]
    refine ascii_lower (madeOf_ofList.mpr fun c hc => ascii c (mem_of_signAt ?_))
    rw [whole]
    exact List.mem_append_left _ hc
  refine Mechanism.mem_known fun name' unknown => ?_
  rw [mechanism] at unknown
  obtain ⟨c, hc, high⟩ := unknown_of_mechanismAt hm unknown
  rw [← eq_of_ofName_unknown unknown] at hc
  exact absurd (letters c hc) (Nat.not_lt.mpr high)

theorem Directive.grammatical_of_ofText? (known : d.mechanism ∈ Mechanism.known) (h : ofText? text = some d) :
    d.Grammatical := by
  obtain ⟨name, hm, allowed, -⟩ := ofText?_some h
  obtain ⟨m, -, taken, rest, -, -, hv⟩ := mechanismAt_some hm
  have absent : d.separator = .absent → d.value = "" := fun hs => value_of_valueAt_absent (hs ▸ hv)
  unfold Mechanism.allows at allowed
  rw [Bool.and_eq_true, Bool.or_eq_true, beq_iff_eq, bne_iff_ne] at allowed
  obtain ⟨given, allowed⟩ := allowed
  unfold Grammatical
  cases hk : d.mechanism with
  | unknown name => simp [hk, Mechanism.known] at known
  | all =>
    rw [hk] at allowed
    have none : d.separator = .absent := by simpa using allowed
    exact ⟨none, absent none⟩
  | incl | «exists» | ip4 | ip6 =>
    rw [hk] at allowed
    have colon : d.separator = .colon := by simpa using allowed
    exact ⟨colon, given.resolve_left (by simp [colon])⟩
  | ptr =>
    rw [hk] at allowed
    have slashless : d.separator ≠ .slash := by simpa using allowed
    cases hs : d.separator with
    | absent => exact .inl ⟨rfl, absent hs⟩
    | colon => exact .inr ⟨rfl, given.resolve_left (by simp [hs])⟩
    | slash => exact absurd hs slashless
  | a | mx =>
    by_cases hs : d.separator = .absent
    · exact .inl ⟨hs, absent hs⟩
    · exact .inr ⟨hs, given.resolve_left hs⟩

end

/-! ### Values -/

theorem readLength_le {width : Nat} {tooLong : SyntaxError} {run : Option (List Char)} {length : Option Nat}
    (h : DualCidr.readLength width tooLong run = .ok length) : ∀ n, length = some n → n ≤ width := by
  unfold DualCidr.readLength at h
  split at h
  · cases h
    exact fun _ => nofun
  · split at h
    · cases h
    · split at h
      · cases h
      · rename_i fits
        cases h
        intro n hn
        cases hn
        exact Nat.not_lt.mp fits

/-- Prefix lengths that are split off a value are no longer than an address. -/
theorem lengths_of_ofDirective {d : Directive} {cidr : DualCidr} (h : DualCidr.ofDirective d = .ok cidr) :
    (∀ n, cidr.ip4 = some n → n ≤ 32) ∧ ∀ n, cidr.ip6 = some n → n ≤ 128 := by
  unfold DualCidr.ofDirective at h
  dsimp only at h
  split at h
  · cases h
  · split at h
    · cases h
    · obtain ⟨ip4, h4, h⟩ := bind_ok_iff.mp h
      obtain ⟨ip6, h6, h⟩ := bind_ok_iff.mp h
      cases h
      exact ⟨readLength_le h4, readLength_le h6⟩

namespace Record

variable {source marker : String}

theorem checkNetwork_ok {family : Family} {d : Directive} (h : checkNetwork source family d = .ok ()) :
    (Network.ofText? d.value).any (·.address.family = family) = true := by
  unfold checkNetwork at h
  split at h
  · cases h
  · split at h
    · assumption
    · cases h

theorem checkDomainSpec_ok {spec : String} (h : checkDomainSpec source marker spec = .ok ()) :
    SpecReads spec ∧ (spec.toList.contains '%' = true ∨ Domain.isValid spec = true) := by
  refine ⟨specReads_of_checkDomainSpec h, ?_⟩
  unfold checkDomainSpec at h
  split at h
  · cases h
  · split at h
    · rename_i fits
      exact Bool.or_eq_true .. ▸ fits
    · cases h

/-- Nothing is in the way of the name to which a domain-spec leads but what its macros stand for. -/
structure SpecRuns (domain spec : String) : Prop where
  reads : SpecReads spec
  valid : spec.toList.contains '%' = true ∨ Domain.isValid (if spec = "" then domain else spec) = true

theorem specRuns_of_checked {domain spec : String} (hd : Domain.isValid domain = true)
    (h : spec = "" ∨ checkDomainSpec source marker spec = .ok ()) : SpecRuns domain spec := by
  rcases h with rfl | h
  · exact ⟨⟨[], rfl⟩, .inr hd⟩
  · obtain ⟨reads, valid⟩ := checkDomainSpec_ok h
    refine ⟨reads, valid.imp_right fun valid => ?_⟩
    split
    · exact hd
    · exact valid

end Record

section
variable {source marker domain : String} {t : Term} {spec : String}

/-- What an accepted term expands has been checked, unless it is empty. -/
theorem Term.Accepted.checked (h : t.Accepted source marker) (ht : t.Targets spec) :
    spec = "" ∨ Record.checkDomainSpec source marker spec = .ok () := by
  cases ht with
  | @directive d _ hs =>
    have checked : Record.checkDirective source marker d = .ok () := h.2
    cases hs with
    | value hm =>
      rw [Record.checkDirective_spec hm] at checked
      split at checked
      · exact .inl ‹_›
      · exact .inr checked
    | @cidr c hm hc =>
      rw [Record.checkDirective_dual hm, hc] at checked
      change (if c.domainSpec = "" then _ else _) = _ at checked
      split at checked
      · exact .inl ‹_›
      · exact .inr checked
  | @modifier m hm =>
    have checked : Record.checkModifier source marker m = .ok () := h
    unfold Record.checkModifier at checked
    rw [if_pos hm] at checked
    exact .inr checked

theorem Term.Accepted.network {d : Directive} {family : Family} (h : (Term.directive d).Accepted source marker)
    (hm : d.mechanism = .ip4 ∧ family = .v4 ∨ d.mechanism = .ip6 ∧ family = .v6) :
    (Network.ofText? d.value).any (·.address.family = family) = true := by
  have checked := h.2
  rcases hm with ⟨hm, rfl⟩ | ⟨hm, rfl⟩ <;>
  · unfold Record.checkDirective at checked
    rw [hm] at checked
    exact Record.checkNetwork_ok checked

end

/-! ### Runs -/

section
variable {answer : Question → σ → Answer × σ} {context : Context} {domain spec : String} {x : Failure}

/-- A name without macros is found at once. -/
theorem exec_targetName_plain (h : Record.SpecRuns domain spec) (hp : spec.toList.contains '%' = false) (w : World σ) :
    exec answer context (targetName domain spec) w = (.ok (if spec = "" then domain else spec), w) := by
  have valid := h.valid.resolve_left (by simp only [hp, Bool.false_eq_true, not_false_eq_true])
  unfold targetName expandDomainSpec
  rw [hp]
  by_cases empty : spec = ""
  · rw [if_pos empty] at valid ⊢
    rw [if_pos empty, pure_bind, valid]
    rfl
  · rw [if_neg empty] at valid ⊢
    rw [if_neg empty]
    show exec answer context (if Domain.isValid spec then pure spec else throwPolicy (.invalidTarget spec)) w = _
    rw [valid]
    rfl

/-- A network of the right family answers without a question. -/
theorem exec_matchesNetwork {family : Family} {d : Directive}
    (h : (Network.ofText? d.value).any (·.address.family = family) = true) (w : World σ) :
    ∃ matched, exec answer context (matchesNetwork family d) w = (.ok matched, w) := by
  unfold matchesNetwork
  cases hn : Network.ofText? d.value with
  | none =>
    rw [hn] at h
    cases h
  | some network =>
    rw [hn] at h
    have same : network.address.family = family := by simpa using h
    dsimp only
    rw [if_pos same]
    exact ⟨_, rfl⟩

theorem SpecFailure.of_specRuns (h : SpecFailure context domain spec x) (hr : Record.SpecRuns domain spec)
    (hs : ¬ context.address.IsScoped) :
    x.OfLookups ∨ spec.toList.contains '%' = true ∧ ∃ target, x = .policy (.invalidTarget target) := by
  cases h with
  | lookups h => exact .inl h
  | macroString he =>
    obtain ⟨tokens, ht⟩ := hr.reads
    rw [ht] at he
    cases he
  | scopedAddress he => exact absurd (Address.macroText_error_iff.mp ⟨_, he⟩) hs
  | @invalidTarget target hv ht =>
    refine .inr ⟨?_, target, rfl⟩
    rcases ht with macros | rfl
    · exact macros
    · exact hr.valid.resolve_right (by simp [hv])

end

/-- What the evaluation of terms that have been read may still fail with: lookups, a name that is made by macros, a
modifier that stands twice, and a numeral in the text of an explanation. -/
inductive Term.LateFailure (domain : String) (terms : List Term) : Failure → Prop
  | lookups {x : Failure} (h : x.OfLookups) : LateFailure domain terms x
  | invalidTarget {t : Term} {spec target : String} (ht : t ∈ terms) (hs : t.Targets spec)
      (hp : spec.toList.contains '%' = true) : LateFailure domain terms (.policy (.invalidTarget target))
  | several {cause : SyntaxError} (h : cause ∈ [SyntaxError.severalRedirects domain, .severalExplanations domain]) :
      LateFailure domain terms (.malformed cause)
  | numeral {m : Modifier} {e : NumeralError} (hm : .modifier m ∈ terms) (hx : m.isExplanation = true) (h : e.Overlong) :
      LateFailure domain terms (.fault (.numeral e))

/-- The terms of a record, each with a mechanism that exists, can be evaluated for a domain. -/
structure Term.Runs (source marker domain : String) (terms : List Term) : Prop where
  accepted : ∀ t ∈ terms, t.Accepted source marker
  known : ∀ d, .directive d ∈ terms → d.mechanism ∈ Mechanism.known
  domain : Domain.isValid domain = true

section
variable {source marker domain : String} {terms : List Term} {context : Context} {x : Failure}

theorem Term.Runs.specRuns (h : Term.Runs source marker domain terms) {t : Term} (ht : t ∈ terms) {spec : String}
    (hs : t.Targets spec) : Record.SpecRuns domain spec :=
  Record.specRuns_of_checked h.domain ((h.accepted t ht).checked hs)

theorem Term.Runs.spec (h : Term.Runs source marker domain terms) {t : Term} (ht : t ∈ terms) {spec : String}
    (hs : t.Targets spec) (hx : SpecFailure context domain spec x) (scope : ¬ context.address.IsScoped) :
    Term.LateFailure domain terms x := by
  rcases hx.of_specRuns (h.specRuns ht hs) scope with looked | ⟨macros, target, rfl⟩
  · exact .lookups looked
  · exact .invalidTarget ht hs macros

theorem Term.Runs.test (h : Term.Runs source marker domain terms) {d : Directive} (hd : .directive d ∈ terms)
    (hx : d.TestFailure context domain x) (scope : ¬ context.address.IsScoped) : Term.LateFailure domain terms x := by
  cases hx with
  | lookups hx => exact .lookups hx
  | target ht hx => exact h.spec hd (.directive ht) hx scope
  | cidr hm hx =>
    obtain ⟨cidr, hc⟩ := (h.accepted _ hd).exists_cidr hm
    rw [hc] at hx
    cases hx
  | network hm hx =>
    rw [(h.accepted _ hd).network hm] at hx
    cases hx
  | mechanism hm =>
    have known := h.known d hd
    rw [hm] at known
    simp [Mechanism.known] at known

theorem Term.Runs.failure (h : Term.Runs source marker domain terms) (hx : TermsFailure context domain terms x)
    (scope : ¬ context.address.IsScoped) : Term.LateFailure domain terms x := by
  cases hx with
  | several hx => exact .several hx
  | test hd hx => exact h.test hd hx scope
  | @qualifier d hd hq =>
    have meant := (h.accepted _ hd).1.qualifier
    rw [hq] at meant
    cases meant
  | @explanation m _ hm he hx =>
    cases hx with
    | target hx => exact h.spec hm (.modifier (by simp [he])) hx scope
    | notAddress text => exact .lookups (.notAddress text)
    | numeral overlong => exact .numeral hm he overlong
    | scopedAddress hx => exact absurd (Address.macroText_error_iff.mp ⟨_, hx⟩) scope
  | redirect hm hr hx => exact h.spec hm (.modifier (by simp [hr])) hx scope

end

/-! ### Records in ASCII -/

section
variable {source marker record domain : String} {terms : List Term} {context : Context}

/-- The directives of a record in ASCII have mechanisms that exist, as the grammar has them. -/
theorem grammatical_of_read (ascii : MadeOf IsAscii record) (hr : Record.read source marker record = .ok terms)
    {d : Directive} (hd : .directive d ∈ terms) : d.mechanism ∈ Mechanism.known ∧ d.Grammatical := by
  obtain ⟨rest, hs, -, h⟩ := Record.read_ok_iff_forall₂.mp hr
  obtain ⟨word, hw, reads⟩ := exists_of_forall₂ h hd
  have letters : MadeOf IsAscii (String.ofList word) := madeOf_ofList.mpr fun c hc =>
    ascii c (Record.mem_of_unquoted (hs ▸ List.mem_append_right _ (mem_of_words hw c hc).1))
  cases reads with
  | directive h =>
    have known := Directive.mem_known_of_ofText? letters h
    exact ⟨known, Directive.grammatical_of_ofText? known h⟩

/-- What is read from a record in ASCII can be run for every valid domain and every client without a scope, whatever is
answered. Its directives have mechanisms that exist, and are as the grammar has them. A network always answers, prefix
lengths are split off and are no longer than an address, macro strings are read, and a name without macros is found.
So the terms fail only late, or as a policy to which they lead. -/
theorem runs_of_read (ascii : MadeOf IsAscii record) (hr : Record.read source marker record = .ok terms)
    (hd : Domain.isValid domain = true) (hs : ¬ context.address.IsScoped) (answer : Question → σ → Answer × σ) :
    (∀ d, .directive d ∈ terms → d.mechanism ∈ Mechanism.known ∧ d.Grammatical) ∧
    (∀ d, .directive d ∈ terms → d.mechanism = .ip4 ∨ d.mechanism = .ip6 → ∀ policy w, ∃ matched,
      exec answer context (matchesClient policy d domain) w = (.ok matched, w)) ∧
    (∀ d, .directive d ∈ terms → d.mechanism = .a ∨ d.mechanism = .mx → ∃ cidr, DualCidr.ofDirective d = .ok cidr ∧
      (∀ n, cidr.ip4 = some n → n ≤ 32) ∧ ∀ n, cidr.ip6 = some n → n ≤ 128) ∧
    (∀ t ∈ terms, ∀ spec, t.Targets spec → Record.SpecReads spec ∧ (spec.toList.contains '%' = false → ∀ w,
      exec answer context (targetName domain spec) w = (.ok (if spec = "" then domain else spec), w))) ∧
    ∀ depth explain w x, (exec answer context (termsAt depth terms domain explain) w).1 = .error x →
      Term.LateFailure domain terms x ∨ ∃ reference target explained w', (exec answer context (entering reference target
        (policyOf (levelsFrom context.receiver.limits (depth + 1)) target explained)) w').1 = .error x := by
  have runs : Term.Runs source marker domain terms :=
    ⟨accepted_of_read hr, fun d hd => (grammatical_of_read ascii hr hd).1, hd⟩
  refine ⟨fun d hd => grammatical_of_read ascii hr hd, ?_, ?_, ?_, ?_⟩
  · intro d hd hm policy w
    unfold matchesClient
    rcases hm with hm | hm
    · rw [hm]
      exact exec_matchesNetwork ((runs.accepted _ hd).network (.inl ⟨hm, rfl⟩)) w
    · rw [hm]
      exact exec_matchesNetwork ((runs.accepted _ hd).network (.inr ⟨hm, rfl⟩)) w
  · intro d hd hm
    obtain ⟨cidr, hc⟩ := (runs.accepted _ hd).exists_cidr hm
    exact ⟨cidr, hc, lengths_of_ofDirective hc⟩
  · intro t ht spec hspec
    have specRuns := runs.specRuns ht hspec
    exact ⟨specRuns.reads, fun plain w => exec_targetName_plain specRuns plain w⟩
  · intro depth explain w x hx
    have fails := evaluateTerms_failsOnly (P := fun x => ∃ reference target explained w', (exec answer context
      (entering reference target (policyOf (levelsFrom context.receiver.limits (depth + 1)) target explained)) w').1 =
        .error x) (fun reference target explained w x hx => ⟨reference, target, explained, w, hx⟩) terms domain explain w x hx
    exact fails.imp_left fun own => runs.failure own hs

end

/-- A record with a macro, a network and a redirect. -/
def runnableRecord : String := "v=spf1 a:%{l}.example.com/24 ip4:192.0.2.0/24 PTR redirect=next.example.com"

theorem runs_of_read_runnableRecord :
    ∃ context terms, Context.ofText { clock := .whole 0 } "192.0.2.5" "user@example.com" "" = .ok context ∧
      Record.read "example.com" Record.defaultMarker runnableRecord = .ok terms ∧ terms.length = 4 ∧
      (∀ d, .directive d ∈ terms → d.mechanism ∈ Mechanism.known ∧ d.Grammatical) ∧
      ∀ w x, (exec (Client.ofZone []).answers context (termsAt 0 terms "example.com" true) w).1 = .error x →
        Term.LateFailure "example.com" terms x ∨ ∃ reference target explained w', (exec (Client.ofZone []).answers context
          (entering reference target (policyOf (levelsFrom context.receiver.limits 1) target explained)) w').1 =
            .error x := by
  obtain ⟨context, hc, unscoped⟩ : ∃ context, Context.ofText { clock := .whole 0 } "192.0.2.5" "user@example.com" "" =
      .ok context ∧ ¬ context.address.IsScoped := ⟨_, rfl, nofun⟩
  have ascii : MadeOf IsAscii runnableRecord := by
    have all : runnableRecord.toList.all (·.toNat < 128) = true := by decide
    exact fun c hc => of_decide_eq_true (List.all_eq_true.mp all c hc)
  obtain ⟨terms, read, four⟩ : ∃ terms, Record.read "example.com" Record.defaultMarker runnableRecord = .ok terms ∧
      terms.length = 4 := by
    have length : (Record.read "example.com" Record.defaultMarker runnableRecord).map List.length = .ok 4 := by
      decide
    cases hr : Record.read "example.com" Record.defaultMarker runnableRecord with
    | error x =>
      rw [hr] at length
      cases length
    | ok terms =>
      rw [hr] at length
      exact ⟨terms, rfl, Except.ok.inj length⟩
  have valid : Domain.isValid "example.com" = true := by decide
  obtain ⟨grammatical, -, -, -, late⟩ := runs_of_read ascii read valid unscoped (Client.ofZone []).answers
  exact ⟨context, terms, hc, read, four, grammatical, late 0 true⟩

end SenderPolicy
