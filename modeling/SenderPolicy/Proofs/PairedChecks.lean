import SenderPolicy.Proofs.Faults
import SenderPolicy.Proofs.SideBySide

/-! Paired checks: for each kind of test and of term, and from there on for policies by induction on the levels, what two
checks make of paired names is the same. -/

namespace SenderPolicy

open Dns Evaluation Text

variable {σ τ α β : Type}

namespace Pairing

variable {P : Pairing} {X : Runs σ τ}

section
variable (hX : X.Paired P)
include hX

/-! ### Macros -/

variable (hP : P.Lawful)
include hP

/-- What is known of a client's confirmed names, or why nothing is. -/
theorem clientNames_sides :
    Sides P X (fun r r' => r = r' ∧ ∀ names, r = .ok names → ∀ name ∈ names, P.Spelt name) clientNames clientNames := by
  refine .reading ?_
  dsimp only
  rw [← hX.limits, ← hX.address]
  refine (sides_ofInquiry (confirmedNames_agree hX hP _ _ _)).bind fun r r' hr => ?_
  obtain ⟨rfl, names⟩ := hr
  rcases r with (e | text) | found
  · exact sides_pure ⟨rfl, fun _ => nofun⟩
  · exact sides_throw (.fault _)
  · refine sides_pure ⟨rfl, fun _ hf => ?_⟩
    cases hf
    exact names found rfl

variable {domain domain' : String} (hd : P.Names domain domain')
include hd

omit hX in
theorem names_preferredName {names : List String} (hn : ∀ name ∈ names, P.Spelt name) :
    P.Names (preferredName domain names) (preferredName domain' names) := by
  have dots : P.Spelt (Domain.withoutDots (lower domain)) := madeOf_ofList.mpr fun c hc =>
    hP.spelt_lower domain (hP.spelt_of_names hd) c (mem_of_dropTrailing hc)
  have unknown : P.Spelt noConfirmedName := hP.spelt_of_plain (by decide)
  have same : preferredName domain names = preferredName domain' names := by
    unfold preferredName
    rw [hP.lower domain domain' hd]
  rw [← same]
  refine .refl ?_
  unfold preferredName
  dsimp only
  split
  · exact dots
  · cases hf : names.find? (Domain.isBelow (Domain.withoutDots (lower domain))) with
    | some name => exact hn name (List.mem_of_find?_eq_some hf)
    | none =>
      cases names with
      | nil => exact unknown
      | cons name rest => exact hn name List.mem_cons_self

theorem confirmedName_sides (explanation : Bool) :
    Sides P X P.Names (confirmedName explanation domain) (confirmedName explanation domain') := by
  unfold confirmedName
  cases explanation
  case' false => refine (sides_countLookup hX).bind fun _ _ _ => ?_
  all_goals
    refine (clientNames_sides hX hP).bind fun r r' hr => ?_
    obtain ⟨rfl, names⟩ := hr
    cases r with
    | error e => exact sides_pure (hP.names_plain (by decide))
    | ok found => exact sides_pure (names_preferredName hP hd (names found rfl))

omit hX hd in
theorem addressText_sides (address : Address) : Sides P X P.Names (addressText address) (addressText address) := by
  unfold addressText
  cases ha : address.macroText with
  | ok text => exact sides_pure (hP.names_plain (Address.plain_macroText ha))
  | error e => exact sides_throw (.fault _)

/-- The facts for which letters outside explanations stand are paired names. -/
theorem fact_sides {explanation : Bool} {letter : Letter} (banned : (letter.explanationOnly && !explanation) = false)
    (known : explanation = false → P.letter letter) :
    Sides P X (P.Texts explanation) (fact explanation domain letter) (fact explanation domain' letter) := by
  have names : ∀ {e e' : Evaluation String}, Sides P X P.Names e e' → Sides P X (P.Texts explanation) e e' :=
    fun h => h.mono fun _ _ => hP.texts_of_names
  have clock : P.explained → toString X.context.receiver.clock.wholeSeconds = toString X.context'.receiver.clock.wholeSeconds :=
    fun hx => congrArg toString (hX.clock hx)
  have seconds : P.Prose (toString X.context.receiver.clock.wholeSeconds) (toString X.context'.receiver.clock.wholeSeconds) :=
    fun hx => ⟨clock hx, hP.spelt_of_plain (plain_int _)⟩
  refine .reading ?_
  cases letter with
  | sender => exact names (sides_pure ((hX.localPart.append (hP.names_plain (s := "@") (by decide))).append hX.senderDomain))
  | localPart => exact names (sides_pure hX.localPart)
  | senderDomain => exact names (sides_pure hX.senderDomain)
  | domain => exact names (sides_pure hd)
  | helo => exact names (sides_pure hX.helo)
  | address =>
    show Sides P X _ (addressText X.context.address) (addressText X.context'.address)
    rw [← hX.address]
    exact names (addressText_sides hP _)
  | confirmedName => exact names (confirmedName_sides hX hP hd explanation)
  | family =>
    dsimp only
    rw [← hX.address]
    exact names (sides_pure (hP.names_plain (by split <;> decide)))
  | client =>
    obtain rfl : explanation = true := by simpa [Letter.explanationOnly] using banned
    exact sides_pure fun hx => ⟨congrArg Address.text hX.address, hX.client hx⟩
  | receiver =>
    obtain rfl : explanation = true := by simpa [Letter.explanationOnly] using banned
    exact sides_pure hX.name
  | time =>
    obtain rfl : explanation = true := by simpa [Letter.explanationOnly] using banned
    exact sides_pure seconds
  | variant text =>
    cases explanation with
    | true => exact sides_pure seconds
    | false =>
      have same := hX.time text (known rfl)
      refine names (sides_pure ?_)
      rw [← same]
      exact hP.names_plain (plain_int _)

theorem expandTokens_sides {explanation : Bool} : ∀ {tokens : List Token}, (∀ token ∈ tokens, P.Expands explanation token) →
    Sides P X (P.Texts explanation) (expandTokens explanation domain tokens) (expandTokens explanation domain' tokens)
  | [], _ => sides_pure (hP.texts_of_names (.nil : P.Names "" ""))
  | .literal text :: rest, ht => by
    rw [List.forall_mem_cons] at ht
    refine (expandTokens_sides ht.2).bind fun later later' hl => sides_pure ?_
    exact (hP.texts_of_names (.refl ht.1.read)).append hl
  | .expansion m :: rest, ht => by
    rw [List.forall_mem_cons] at ht
    obtain ⟨⟨read, known⟩, ht⟩ := ht
    refine (fact_sides hX hP hd read.allowed fun he => known he m rfl).bind fun value value' hv => ?_
    refine (expandTokens_sides ht).bind fun later later' hl => sides_pure ?_
    exact (hP.texts_transform read.delimiters hv).append hl

/-- A macro string is expanded to alike texts, or it cannot be read for either check. -/
theorem expand_sides {explanation : Bool} {text : String} (hs : P.Spelt text)
    (hu : explanation = false → SpecUses P.letter text) :
    Sides P X (P.Texts explanation) (expand explanation domain text) (expand explanation domain' text) := by
  unfold expand
  split
  · refine sides_throw (failures_ofMacroString (hP.prose_of_names hd) (fun hx => ?_) (fun _ => hs) _)
    exact hP.spelt_of_printed hx (by decide +kernel)
  · rename_i tokens ht
    exact expandTokens_sides hX hP hd (hP.expands_of_readTokens hs hu ht)

/-- The names to which a term leads are paired, or invalid for both checks. -/
theorem targetName_sides {spec : String} (hs : P.Spelt spec) (hu : SpecUses P.letter spec) :
    Sides P X P.Names (targetName domain spec) (targetName domain' spec) := by
  have name : Sides P X P.Names (expandDomainSpec domain spec) (expandDomainSpec domain' spec) := by
    unfold expandDomainSpec
    split
    · exact sides_pure hd
    · split
      · exact sides_pure (.refl hs)
      · exact (expand_sides hX hP hd hs fun _ => hu).bind fun target target' ht => sides_pure (hP.shortened _ ht)
  refine name.bind fun target target' ht => ?_
  rw [hP.isValid ht]
  split
  · exact sides_pure ht
  · exact sides_throwPolicy ⟨rfl, fun hx => ⟨by rw [(hP.prose_of_names ht hx).1], trivial⟩⟩

end

/-! ### Mechanisms -/

section
variable (hX : X.Paired P)
include hX

theorem attempt_sides {q q' : Question} (hq : q.Standard) (hqq : P.Asks q q') :
    Sides P X (fun r r' => r = r' ∧ P.Found r) (attempt (records q)) (attempt (records q')) :=
  sides_ofInquiry (records_agree hX hq hqq)

omit hX in
theorem errors_temporary {name name' : String} {e : LookupError} (hn : P.Prose name name') (he : P.Reports e) :
    P.Errors (.temporary name e) (.temporary name' e) :=
  ⟨rfl, fun hx => by
    obtain ⟨rfl, spelt⟩ := hn hx
    exact ⟨rfl, spelt, he hx⟩⟩

variable (hP : P.Lawful)
include hP

theorem hostAddresses_sides {host host' : String} (hh : P.Names host host') (family : Family) :
    Sides P X Eq (hostAddresses host family) (hostAddresses host' family) := by
  have standard : Question.Standard ⟨host, addressType family, .mechanism⟩ := addressType_ne_other family
  have asks : P.Asks ⟨host, addressType family, .mechanism⟩ ⟨host', addressType family, .mechanism⟩ := ⟨rfl, rfl, .inr hh⟩
  rw [hostAddresses_eq, hostAddresses_eq]
  refine (attempt_sides hX standard asks).bind fun r r' hr => ?_
  obtain ⟨rfl, found⟩ := hr
  rcases r with e | texts
  · have failed : Sides P X Eq (throwPolicy (.temporary host e) : Evaluation (List String)) (throwPolicy (.temporary host' e)) :=
      sides_throwPolicy (errors_temporary (hP.prose_of_names hh) found)
    cases e with
    | noSuchDomain => exact (sides_countVoidLookup hX).bind fun _ _ _ => sides_pure rfl
    | _ => exact failed
  · dsimp only [Except.map, withAddresses]
    split
    · exact (sides_countVoidLookup hX).bind fun _ _ _ => sides_pure rfl
    · exact sides_pure rfl

omit hP in
theorem isAmong_sides (cidr : DualCidr) (found : List String) : Sides P X Eq (isAmong cidr found) (isAmong cidr found) := by
  refine .reading ?_
  dsimp only
  rw [← hX.address]
  cases anyShares X.context.address (sharedLength cidr X.context.address.family) found with
  | ok answer => exact sides_pure rfl
  | error e => exact sides_throw (.fault _)

theorem anyMailHost_sides (cidr : DualCidr) : ∀ {hosts : List MailHost}, (∀ host ∈ hosts, P.Spelt host.hostname) →
    Sides P X Eq (anyMailHost cidr hosts) (anyMailHost cidr hosts)
  | [], _ => sides_pure rfl
  | host :: rest, hh => by
    rw [List.forall_mem_cons] at hh
    refine .reading ?_
    rw [← hX.address]
    refine (hostAddresses_sides hX hP (.refl hh.1) _).bind fun found _ hf => ?_
    subst hf
    refine (isAmong_sides hX cidr found).bind fun matched _ hm => ?_
    subst hm
    cases matched with
    | true => exact sides_pure rfl
    | false => exact anyMailHost_sides cidr hh.2

omit hX in
theorem spelt_of_readMailHosts {texts : List String} (ht : ∀ text ∈ texts, P.Spelt text) {hosts : List MailHost}
    (h : readMailHosts texts = .ok hosts) : ∀ host ∈ hosts, P.Spelt host.hostname := fun host hm => by
  obtain ⟨text, htext, hr⟩ := exists_of_mem_readMailHosts h host hm
  obtain ⟨name, lowered, part⟩ := MailHost.exists_of_ofText hr
  rw [lowered]
  exact hP.spelt_lower name fun c hc => ht text htext c (part c hc)

/-- What a mail mechanism makes of the answer to its question. -/
theorem withMailHosts_sides (cidr : DualCidr) {target target' : String} (ht : P.Names target target')
    {r : Except LookupError (List String)} (hr : P.Found r) :
    Sides P X Eq (withMailHosts cidr target (r.bind readMailHosts)) (withMailHosts cidr target' (r.bind readMailHosts)) := by
  have failed : ∀ e, P.Reports e → Sides P X Eq (throwPolicy (.temporary target e) : Evaluation Bool)
      (throwPolicy (.temporary target' e)) := fun e he =>
    sides_throwPolicy (errors_temporary (hP.prose_of_names ht) he)
  have nothing : Sides P X Eq (do countVoidLookup; pure false) (do countVoidLookup; pure false) :=
    (sides_countVoidLookup hX).bind fun _ _ _ => sides_pure rfl
  have reported : ∀ e, P.Reports e → Sides P X Eq (withMailHosts cidr target (.error e)) (withMailHosts cidr target' (.error e)) :=
    fun e he => by
      cases e with
      | noSuchDomain => exact nothing
      | _ => exact failed _ he
  rcases r with e | texts
  · exact reported e hr
  · show Sides P X Eq (withMailHosts cidr target (readMailHosts texts)) (withMailHosts cidr target' (readMailHosts texts))
    cases hh : readMailHosts texts with
    | error e => exact reported e fun hx => hP.spelt_of_printed hx (printed_of_readMailHosts hh)
    | ok hosts =>
      have spelt := spelt_of_readMailHosts hP hr hh
      cases hosts with
      | nil => exact nothing
      | cons host rest =>
        refine .reading ?_
        dsimp only
        rw [← hX.limits]
        split
        · rw [throwPolicy_bind, throwPolicy_bind]
          refine sides_throwPolicy ⟨rfl, fun hx => ?_⟩
          obtain ⟨rfl, shown⟩ := hP.prose_of_names ht hx
          exact ⟨rfl, shown⟩
        · exact anyMailHost_sides hX hP cidr spelt

section
variable {domain domain' : String} (hd : P.Names domain domain') {d : Directive} (hf : P.Fits (.directive d))
include hd hf

/-- The target of a directive without prefix lengths. -/
theorem valueTarget_sides (hm : d.mechanism = .incl ∨ d.mechanism = .ptr ∨ d.mechanism = .exists) :
    Sides P X P.Names (targetName domain d.value) (targetName domain' d.value) := by
  have target := Term.Targets.directive (.value hm)
  exact targetName_sides hX hP hd (hf.spelt.targets _ target) (hf.uses _ target)

/-- The target of a directive with prefix lengths, for whatever comes of it. -/
theorem dualTarget_sides (hm : d.mechanism = .a ∨ d.mechanism = .mx) {f f' : DualCidr → String → Evaluation Bool}
    (hff : ∀ cidr target target', P.Names target target' → Sides P X Eq (f cidr target) (f' cidr target')) :
    Sides P X Eq
      (do let cidr ← Evaluation.ofExcept (DualCidr.ofDirective d); let target ← targetName domain cidr.domainSpec; f cidr target)
      (do let cidr ← Evaluation.ofExcept (DualCidr.ofDirective d); let target ← targetName domain' cidr.domainSpec; f' cidr target) := by
  have cidr : P.Outcomes Eq (DualCidr.ofDirective d) (DualCidr.ofDirective d) := outcomes_ofDirective fun _ => hf.spelt.raw
  refine (sides_ofExcept (cidr.holding fun _ => id)).bind fun cidr cidr' hc => ?_
  obtain ⟨rfl, hc⟩ := hc
  have target := Term.Targets.directive (.cidr hm hc)
  exact (targetName_sides hX hP hd (hf.spelt.targets _ target) (hf.uses _ target)).bind (hff cidr)

theorem matchesHost_sides (hm : d.mechanism = .a ∨ d.mechanism = .mx) :
    Sides P X Eq (matchesHost d domain) (matchesHost d domain') := by
  refine (sides_countLookup hX).bind fun _ _ _ => dualTarget_sides hX hP hd hf hm fun cidr target target' ht => .reading ?_
  rw [← hX.address]
  refine (hostAddresses_sides hX hP ht _).bind fun found _ hfound => ?_
  subst hfound
  exact isAmong_sides hX cidr found

theorem matchesMailHost_sides (hm : d.mechanism = .a ∨ d.mechanism = .mx) :
    Sides P X Eq (matchesMailHost d domain) (matchesMailHost d domain') := by
  rw [matchesMailHost_eq, matchesMailHost_eq]
  refine (sides_countLookup hX).bind fun _ _ _ => dualTarget_sides hX hP hd hf hm fun cidr target target' ht => ?_
  have standard : Question.Standard ⟨target, .mx, .mechanism⟩ := fun _ => nofun
  have asks : P.Asks ⟨target, .mx, .mechanism⟩ ⟨target', .mx, .mechanism⟩ := ⟨rfl, rfl, .inr ht⟩
  refine (attempt_sides hX standard asks).bind fun r r' hr => ?_
  obtain ⟨rfl, found⟩ := hr
  exact withMailHosts_sides hX hP cidr ht found

theorem matchesConfirmedName_sides (hm : d.mechanism = .incl ∨ d.mechanism = .ptr ∨ d.mechanism = .exists) :
    Sides P X Eq (matchesConfirmedName d domain) (matchesConfirmedName d domain') := by
  refine (sides_countLookup hX).bind fun _ _ _ => (valueTarget_sides hX hP hd hf hm).bind fun target target' ht => ?_
  dsimp only
  rw [hP.lower target target' ht]
  refine (clientNames_sides hX hP).bind fun r r' hr => ?_
  obtain ⟨rfl, -⟩ := hr
  cases r with
  | error e => exact sides_pure rfl
  | ok names => exact sides_pure rfl

theorem matchesExistence_sides (hm : d.mechanism = .incl ∨ d.mechanism = .ptr ∨ d.mechanism = .exists) :
    Sides P X Eq (matchesExistence d domain) (matchesExistence d domain') := by
  refine (sides_countLookup hX).bind fun _ _ _ => (valueTarget_sides hX hP hd hf hm).bind fun target target' ht => ?_
  exact (hostAddresses_sides hX hP ht .v4).bind fun found _ hfound => sides_pure (by rw [hfound])

omit hd in
theorem matchesNetwork_sides {family : Family} (hn : d.mechanism = .ip4 ∨ d.mechanism = .ip6) :
    Sides P X Eq (matchesNetwork family d) (matchesNetwork family d) := by
  have name : P.Spelt d.mechanism.name := by
    rcases hn with hn | hn <;> rw [hn] <;> exact hP.spelt_of_plain (by decide)
  have wrong : P.Errors (.network d.value d.mechanism.name) (.network d.value d.mechanism.name) :=
    ⟨rfl, fun _ => ⟨rfl, hf.spelt.value d rfl, name⟩⟩
  unfold matchesNetwork
  split
  · exact sides_throwPolicy wrong
  · split
    · refine .reading (sides_pure ?_)
      rw [hX.address]
    · exact sides_throwPolicy wrong

end

end

/-! ### Explanations -/

/-- Verdicts with the same result and paired explanations. -/
structure Verdicts (P : Pairing) (v v' : Verdict) : Prop where
  result : v.result = v'.result
  explanation : P.Prose v.explanation v'.explanation

section
variable (hX : X.Paired P) (hP : P.Lawful) {domain domain' : String} (hd : P.Names domain domain')
include hX hP hd

theorem explanationAt_sides {target target' : String} (ht : P.Names target target') :
    Sides P X P.Explanations (explanationAt domain target) (explanationAt domain' target') := by
  have nothing : Sides P X P.Explanations (pure none) (pure none) := sides_pure fun _ => ⟨rfl, fun _ => nofun⟩
  have standard : Question.Standard ⟨target, .txt, .explanation⟩ := fun _ => nofun
  have asks : P.Asks ⟨target, .txt, .explanation⟩ ⟨target', .txt, .explanation⟩ := ⟨rfl, rfl, .inr ht⟩
  refine (attempt_sides hX standard asks).bind fun r r' hr => ?_
  obtain ⟨rfl, found⟩ := hr
  rcases r with e | _ | ⟨text, _ | ⟨other, rest⟩⟩
  · exact nothing
  · exact nothing
  · have spelt : P.Spelt text := found text List.mem_cons_self
    have expanded : Sides P X P.Prose (expand true domain text) (expand true domain' text) :=
      expand_sides hX hP hd spelt fun h : true = false => nomatch h
    refine expanded.map fun shown shown' hs hx => ?_
    obtain ⟨rfl, prose⟩ := hs hx
    refine ⟨rfl, fun s hm => ?_⟩
    cases hm
    exact prose
  · exact nothing

theorem explanation_sides {m : Modifier} (hs : P.Spelt m.macroString) (hu : SpecUses P.letter m.macroString) :
    Sides P X P.Explanations (explanation m domain) (explanation m domain') := by
  have aside := hX.askedFor .explanation
  rw [explanation_eq, explanation_eq]
  exact .askedFor (.excused ((targetName_sides aside hP hd hs hu).uncounted.bind fun target target' ht =>
    explanationAt_sides aside hP hd ht))

theorem directiveVerdict_sides {d : Directive} (hf : P.Fits (.directive d)) {exp : Option Modifier}
    (he : ∀ m ∈ exp, P.Spelt m.macroString ∧ SpecUses P.letter m.macroString) :
    Sides P X P.Verdicts (directiveVerdict d exp domain) (directiveVerdict d exp domain') := by
  have client : P.Prose X.context.address.text X.context'.address.text := fun hx => ⟨by rw [hX.address], hX.client hx⟩
  have raw : P.Prose d.raw d.raw := .refl fun _ => hf.spelt.raw
  have allowed : P.Prose "Allowed sender IP: " "Allowed sender IP: " := hP.prose_printed (by decide)
  have disallowed := Prose.append (hP.prose_printed (by decide : MadeOf _ "Disallowed sender IP: ")) client
  have sender : P.Prose "Sender IP " "Sender IP " := hP.prose_printed (by decide)
  have matched : P.Prose " matched " " matched " := hP.prose_printed (by decide)
  have explained : ∀ (text text' : Option String) {s s' : String}, P.Explanations text text' → P.Prose s s' →
      P.Prose (if text.getD "" = "" then s else text.getD "") (if text'.getD "" = "" then s' else text'.getD "") := by
    intro text text' s s' ht hs hx
    obtain ⟨rfl, spelt⟩ := ht hx
    split
    · exact hs hx
    · cases text with
      | none => contradiction
      | some text => exact ⟨rfl, spelt text rfl⟩
  unfold directiveVerdict
  refine .reading ?_
  dsimp only
  cases d.qualifier.result? with
  | none => exact sides_throw (.fault _)
  | some result =>
    cases result with
    | pass => exact sides_pure ⟨rfl, allowed.append client⟩
    | fail =>
      cases exp with
      | none => exact sides_pure ⟨rfl, explained none none (fun _ => ⟨rfl, fun _ => nofun⟩) disallowed⟩
      | some m =>
        exact (explanation_sides hX hP hd (he m rfl).1 (he m rfl).2).bind fun text text' ht =>
          sides_pure ⟨rfl, explained text text' ht disallowed⟩
    | _ => exact sides_pure ⟨rfl, ((sender.append client).append matched).append raw⟩

end

/-! ### Policies -/

/-- The modifiers that are collected do not depend on the domain; that there are several of a kind is said of it. -/
theorem collectModifiers_paired {domain domain' : String} (hd : P.Prose domain domain') :
    ∀ (found : Modifiers) (terms : List Term),
    (∃ all, collectModifiers domain found terms = .ok all ∧ collectModifiers domain' found terms = .ok all) ∨
      ∃ e e', collectModifiers domain found terms = .error e ∧ collectModifiers domain' found terms = .error e' ∧ P.Errors e e'
  | found, [] => .inl ⟨found, rfl, rfl⟩
  | found, .directive _ :: rest => collectModifiers_paired hd found rest
  | found, .modifier m :: rest => by
    have severalRedirects : P.Errors (.malformed (.severalRedirects domain)) (.malformed (.severalRedirects domain')) :=
      ⟨rfl, fun hx => by obtain ⟨rfl, spelt⟩ := hd hx; exact ⟨rfl, spelt⟩⟩
    have severalExplanations : P.Errors (.malformed (.severalExplanations domain)) (.malformed (.severalExplanations domain')) :=
      ⟨rfl, fun hx => by obtain ⟨rfl, spelt⟩ := hd hx; exact ⟨rfl, spelt⟩⟩
    rw [collectModifiers, collectModifiers]
    split
    · split
      · exact .inr ⟨_, _, rfl, rfl, severalRedirects⟩
      · exact collectModifiers_paired hd _ rest
    · split
      · split
        · exact .inr ⟨_, _, rfl, rfl, severalExplanations⟩
        · exact collectModifiers_paired hd _ rest
      · exact collectModifiers_paired hd _ rest

section
variable (hX : X.Paired P) (hP : P.Lawful)

/-- How policies are evaluated makes no difference to paired domains. -/
def Policies (P : Pairing) (X : Runs σ τ) (policy : PolicyEvaluation) : Prop :=
  ∀ domain domain' explain, P.Names domain domain' → Sides P X P.Verdicts (policy domain explain) (policy domain' explain)

variable {policy : PolicyEvaluation} (hp : Policies P X policy) {domain domain' : String} (hd : P.Names domain domain')
include hX hP hp hd

theorem matchesPolicy_sides {d : Directive} (hf : P.Fits (.directive d))
    (hm : d.mechanism = .incl ∨ d.mechanism = .ptr ∨ d.mechanism = .exists) :
    Sides P X Eq (matchesPolicy (policy · false) d domain) (matchesPolicy (policy · false) d domain') := by
  refine (sides_countLookup hX).bind fun _ _ _ => (valueTarget_sides hX hP hd hf hm).bind fun target target' ht => ?_
  exact ((hp target target' false ht).entering .incl (hP.prose_of_names ht)).bind fun v v' hv =>
    sides_pure (by rw [hv.result])

/-- Whether a directive matches the client is the same for paired domains. -/
theorem matchesClient_sides {d : Directive} (hf : P.Fits (.directive d)) :
    Sides P X Eq (matchesClient (policy · false) d domain) (matchesClient (policy · false) d domain') := by
  unfold matchesClient
  cases hm : d.mechanism with
  | all => exact sides_pure rfl
  | incl => exact matchesPolicy_sides hX hP hp hd hf (.inl hm)
  | a => exact matchesHost_sides hX hP hd hf (.inl hm)
  | mx => exact matchesMailHost_sides hX hP hd hf (.inr hm)
  | ptr => exact matchesConfirmedName_sides hX hP hd hf (.inr (.inl hm))
  | ip4 => exact matchesNetwork_sides hX hP hf (.inl hm)
  | ip6 => exact matchesNetwork_sides hX hP hf (.inr hm)
  | «exists» => exact matchesExistence_sides hX hP hd hf (.inr (.inr hm))
  | unknown name => exact sides_throw (.fault _)

/-- What becomes of a record in which no directive matches. -/
theorem withoutMatch_sides {redirect : Option Modifier}
    (hr : ∀ m ∈ redirect, P.Spelt m.macroString ∧ SpecUses P.letter m.macroString) (explain : Bool) :
    Sides P X P.Verdicts (withoutMatch policy redirect domain explain) (withoutMatch policy redirect domain' explain) := by
  cases redirect with
  | none => exact sides_pure ⟨rfl, hP.prose_printed (by decide)⟩
  | some m =>
    obtain ⟨spelt, uses⟩ := hr m rfl
    refine (sides_countLookup hX).bind fun _ _ _ => (targetName_sides hX hP hd spelt uses).bind fun target target' ht => ?_
    exact (hp target target' explain ht).entering .redirect (hP.prose_of_names ht)

theorem evaluateDirectives_sides {found : Modifiers}
    (hm : ∀ m, found.redirect = some m ∨ found.exp = some m → P.Spelt m.macroString ∧ SpecUses P.letter m.macroString)
    (explain : Bool) : ∀ terms : List Term, (∀ t ∈ terms, P.Fits t) →
    Sides P X P.Verdicts (evaluateDirectives policy found domain explain terms)
      (evaluateDirectives policy found domain' explain terms)
  | [], _ => withoutMatch_sides hX hP hp hd (fun m h => hm m (.inl h)) explain
  | .modifier _ :: rest, ht => evaluateDirectives_sides hm explain rest (List.forall_mem_cons.mp ht).2
  | .directive d :: rest, ht => by
    rw [List.forall_mem_cons] at ht
    refine (matchesClient_sides hX hP hp hd ht.1).bind fun matched _ h => ?_
    subst h
    cases matched with
    | false => exact evaluateDirectives_sides hm explain rest ht.2
    | true =>
      refine directiveVerdict_sides hX hP hd ht.1 fun m h => hm m (.inr ?_)
      cases explain with
      | true => exact h
      | false => cases h

theorem evaluateTerms_sides (explain : Bool) {terms : List Term} (ht : ∀ t ∈ terms, P.Fits t) :
    Sides P X P.Verdicts (evaluateTerms policy terms domain explain) (evaluateTerms policy terms domain' explain) := by
  unfold evaluateTerms
  rcases collectModifiers_paired (hP.prose_of_names hd) {} terms with ⟨all, ha, ha'⟩ | ⟨e, e', he, he', h⟩
  · rw [ha, ha']
    refine evaluateDirectives_sides hX hP hp hd (fun m hm => ?_) explain terms ht
    have collected : Term.modifier m ∈ terms ∧ (m.isRedirect || m.isExplanation) = true := by
      obtain ⟨redirect, exp⟩ := mem_of_collectModifiers (m := m) ha
      rcases hm with hm | hm
      · obtain ⟨mem, kind⟩ := redirect hm
        exact ⟨mem, by simp [kind]⟩
      · obtain ⟨mem, kind⟩ := exp hm
        exact ⟨mem, by simp [kind]⟩
    have fits := ht _ collected.1
    have target := Term.Targets.modifier collected.2
    exact ⟨fits.spelt.targets _ target, fits.uses _ target⟩
  · rw [he, he']
    exact sides_throwPolicy h

end

/-- What a lookup for a policy may come to is said of names in normal form. -/
theorem errors_lookupFailure {name : String} (hn : P.explained → P.Spelt name) {e : LookupError} (he : P.Reports e)
    (strict : Bool) : P.Errors (Record.lookupFailure name strict e) (Record.lookupFailure name strict e) := by
  refine ⟨rfl, fun hx => ⟨rfl, ?_⟩⟩
  cases e with
  | noSuchDomain => trivial
  | temporary cause => exact ⟨hn hx, he hx⟩
  | _ =>
    unfold Record.lookupFailure
    dsimp only
    split
    · exact ⟨hn hx, he hx⟩
    · exact he hx

/-- The terms of one record, of which both checks make the same. -/
def SameTerms (P : Pairing) (terms terms' : List Term) : Prop := terms = terms' ∧ ∀ t ∈ terms, P.Fits t

/-- What is read from the answer to the question for a policy. -/
theorem readFound_paired (hP : P.Lawful) {domain domain' : String} (hd : P.Names domain domain') (strict : Bool) {reply : Answer}
    (ht : ∀ texts, reply = .ok texts → ∀ text ∈ texts, P.Suits .txt text)
    (he : ∀ e, reply = .error e → P.Reports (.ofResolver e)) :
    P.Outcomes P.SameTerms (Record.readFound strict domain reply)
      (Record.readFound strict domain' reply) := by
  have name : P.explained → P.Spelt (Domain.normalized domain') := fun hx =>
    hP.normalized domain domain' hd ▸ hP.spelt_normalized hx domain (hP.spelt_of_names hd)
  have marker : P.explained → P.Spelt Record.defaultMarker := fun hx => hP.spelt_of_printed hx (by decide +kernel)
  have failed : ∀ e, P.Reports e → P.Failures (.policy (Record.lookupFailure (Domain.normalized domain') strict e))
      (.policy (Record.lookupFailure (Domain.normalized domain') strict e)) := fun e he =>
    .policy (errors_lookupFailure name he strict)
  unfold Record.readFound
  rw [hP.normalized domain domain' hd]
  rcases reply with e | texts
  · cases e with
    | noAnswer => exact .error (.policy ⟨rfl, fun _ => ⟨rfl, trivial⟩⟩)
    | _ => exact .error (failed _ (he _ rfl))
  · dsimp only [foundRecords]
    cases hs : Record.select (Domain.normalized domain') texts with
    | error e =>
      refine .error (.policy ⟨rfl, fun hx => ⟨rfl, ?_⟩⟩)
      unfold Record.select at hs
      split at hs <;> cases hs
      · trivial
      · exact name hx
    | ok record =>
      have suits : P.Suits .txt record := by
        have only := select_ok_iff.mp hs
        exact ht texts rfl record (List.mem_of_mem_filter (only ▸ List.mem_singleton_self record))
      exact (outcomes_read (hP.prose_of_names hd) marker hP fun _ => suits.spelt).holding fun terms hr =>
        hP.fits_of_read hr suits

section
variable (hX : X.Paired P) (hP : P.Lawful)
include hX hP

/-- The terms of the policies of paired domains are the same. -/
theorem policyTerms_sides {domain domain' : String} (hd : P.Names domain domain') :
    Sides P X P.SameTerms (policyTerms domain) (policyTerms domain') := by
  intro w w' hw
  have standard : (Record.question domain).Standard := fun _ => nofun
  have question : Record.question domain = Record.question domain' := by
    unfold Record.question
    rw [hP.normalized domain domain' hd]
  have asks : P.Asks (Record.question domain) (Record.question domain') := ⟨rfl, rfl, .inl (congrArg _ question)⟩
  rw [exec_policyTerms, exec_policyTerms, ← hP.isValid hd]
  split
  · rw [← hX.same _ _ w.state w'.state standard asks hw.state, ← hX.strict]
    refine ⟨readFound_paired hP hd _ ?_ ?_, hw.counters, hX.keep _ _ w.state w'.state standard asks hw.state⟩
    · exact fun texts ht => hX.suits _ w.state w'.state texts standard hw.state ht
    · exact fun e he => hX.warned _ w.state w'.state e standard hw.state he
  · refine ⟨.error (.policy ⟨rfl, fun hx => ?_⟩), hw⟩
    obtain ⟨rfl, spelt⟩ := hP.prose_of_names hd hx
    exact ⟨rfl, trivial⟩

/-- The evaluation of policies makes no difference to paired domains, on however many levels. -/
theorem policyOf_sides : ∀ levels, Policies P X (policyOf levels)
  | 0 => fun domain domain' _ hd => .reading (sides_throwPolicy ⟨rfl, fun hx => by
      obtain ⟨rfl, spelt⟩ := hP.prose_of_names hd hx
      exact ⟨by rw [hX.limits], spelt⟩⟩)
  | levels + 1 => fun domain domain' explain hd => by
    have deeper := policyOf_sides levels
    rw [policyOf_succ, policyOf_succ]
    refine (policyTerms_sides hX hP hd).bind fun terms _ h => ?_
    obtain ⟨rfl, fits⟩ := h
    split
    · exact sides_pure ⟨rfl, hP.prose_printed (by decide)⟩
    · exact evaluateTerms_sides hX hP deeper hd explain fits

theorem checkedPolicy_sides {domain domain' : String} (hd : P.Names domain domain') :
    Sides P X P.Verdicts (checkedPolicy domain) (checkedPolicy domain') := by
  refine .reading ?_
  rw [hX.limits]
  exact policyOf_sides hX hP _ domain domain' true hd

end

/-! ### Checks -/

/-- Checks end with the same result or the same fault. If explanations are the same, so are the verdicts. -/
structure Ends (P : Pairing) (r r' : Except Fault Verdict) : Prop where
  result : r.map (·.result) = r'.map (·.result)
  same : P.explained → r = r' ∧ ∀ verdict, r = .ok verdict → P.Spelt verdict.explanation

theorem Outcomes.ends (hP : P.Lawful) {r r' : Except Failure Verdict} (h : P.Outcomes P.Verdicts r r') (c c' : Counters) :
    P.Ends (Outcome.ofResult (r, c)).verdict (Outcome.ofResult (r', c')).verdict := by
  have verdicts : ∀ v v', P.Verdicts v v' → P.Ends (.ok v) (.ok v') := by
    rintro ⟨result, explanation⟩ ⟨result', explanation'⟩ ⟨same, prose⟩
    refine ⟨congrArg Except.ok same, fun hx => ?_⟩
    obtain ⟨rfl, spelt⟩ := prose hx
    cases same
    exact ⟨rfl, fun _ => by rintro ⟨⟩; exact spelt⟩
  cases h with
  | ok h => exact verdicts _ _ h
  | error h =>
    cases h with
    | fault f => exact ⟨rfl, fun _ => ⟨rfl, fun _ => nofun⟩⟩
    | @policy e e' h =>
      refine verdicts e.verdict e'.verdict ⟨h.result, fun hx => ?_⟩
      obtain ⟨rfl, spelt⟩ := h.same hx
      exact ⟨rfl, PolicyError.madeOf_message (hP.printed hx) spelt⟩

/-- Checks of paired domains come to the same and count the same. -/
theorem check_paired (hX : X.Paired P) (hP : P.Lawful) {domain domain' : String} (hd : P.Names domain domain') {s : σ} {s' : τ}
    (hs : X.related s s') :
    let ran := (X.context.check domain).run X.answer s
    let ran' := (X.context'.check domain').run X.answer' s'
    P.Ends ran.1.verdict ran'.1.verdict ∧ ran.1.counters = ran'.1.counters ∧ X.related ran.2 ran'.2 := by
  obtain ⟨outcome, counters, kept⟩ := checkedPolicy_sides hX hP hd (.fresh s) (.fresh s') ⟨rfl, hs⟩
  rw [Context.run_check, Context.run_check]
  dsimp only
  rw [Outcome.counters_ofResult, Outcome.counters_ofResult]
  exact ⟨outcome.ends hP _ _, counters, kept⟩

end Pairing

end SenderPolicy
