import SenderPolicy.Proofs.Accepted
import SenderPolicy.Proofs.AddressAnswers
import SenderPolicy.Proofs.AddressText
import SenderPolicy.Proofs.Decision

/-! Faults of checks. With proper address records a check comes to a verdict, unless one of the visits of the run
meets a hazard: a numeral with too many digits, the address of a scoped client in a macro string, or a mechanism
that is equal to a known one only when case is ignored. Nothing else escapes, and each of these does. -/

namespace SenderPolicy

open Dns Evaluation Relation

variable {σ α β : Type}

/-! ### Macro strings -/

namespace Evaluation

section
variable (answer : Question → σ → Answer × σ) (context : Context) (explaining : Bool) (domain : String)

/-- The expansion of tokens comes to the address of the client. -/
def ComesToAddress (tokens : List Token) (w : World σ) : Prop :=
  ∃ before m after text w', tokens = before ++ .expansion m :: after ∧ m.letter = .address ∧
    exec answer context (expandTokens explaining domain before) w = (.ok text, w')

/-- The expansion of tokens comes to the address of the client, and that has a scope. -/
def MeetsScope (tokens : List Token) (w : World σ) (f : Fault) : Prop :=
  ComesToAddress answer context explaining domain tokens w ∧
    ∃ e, context.address.macroText = .error e ∧ f = .scopedAddress e

/-- What makes the expansion of a macro string end in a fault. -/
inductive MacroHazard (text : String) (w : World σ) (f : Fault) : Prop
  | numeral {e : Text.NumeralError} (h : readTokens explaining text.toList = .error (.numeral e)) (hf : f = .numeral e)
  | scope {tokens : List Token} (h : readTokens explaining text.toList = .ok tokens)
      (hs : MeetsScope answer context explaining domain tokens w f)

/-- What makes finding the name to which a term leads end in a fault. -/
def SpecHazard (spec : String) (w : World σ) (f : Fault) : Prop :=
  spec.toList.contains '%' = true ∧ ∃ tokens, readTokens false spec.toList = .ok tokens ∧
    MeetsScope answer context false domain tokens w f

end

section
variable {answer : Question → σ → Answer × σ} {context : Context} {I : σ → Prop} {explaining : Bool} {domain : String}
  {w : World σ} {f : Fault}

theorem exec_fact_fault_iff (ht : Truthful answer I) (hw : I w.state) {letter : Letter} :
    (exec answer context (fact explaining domain letter) w).1 = .error (.fault f) ↔
      letter = .address ∧ ∃ e, context.address.macroText = .error e ∧ f = .scopedAddress e := by
  unfold fact
  rw [exec_read_bind]
  cases letter with
  | address =>
    dsimp only
    unfold addressText
    cases context.address.macroText with
    | error e => simp [eq_comm]
    | ok text => simp
  | confirmedName =>
    have faultless : Faultless answer context I (confirmedName explaining domain) := by
      unfold confirmedName
      cases explaining
      case' false => refine .bind ht faultless_countLookup .countLookup fun _ => ?_
      all_goals
        refine .bind ht (clientNames_faultless ht) clientNames_composed.asksOnly fun r => ?_
        cases r <;> exact faultless_pure _
    exact ⟨fun h => absurd h (faultless w hw f), nofun⟩
  | _ => simp

theorem meetsScope_of_exec (ht : Truthful answer I) {tokens : List Token} (hw : I w.state)
    (h : (exec answer context (expandTokens explaining domain tokens) w).1 = .error (.fault f)) :
    MeetsScope answer context explaining domain tokens w f := by
  induction tokens generalizing w with
  | nil => cases h
  | cons token rest ih =>
    cases token with
    | literal text =>
      rcases exec_bind_error_iff.mp h with h | ⟨later, w', -, h⟩
      · obtain ⟨⟨before, m, after, text', w', rfl, hm, hb⟩, he⟩ := ih hw h
        exact ⟨⟨.literal text :: before, m, after, _, w', rfl, hm, exec_bind_ok_iff.mpr ⟨text', w', hb, rfl⟩⟩, he⟩
      · cases h
    | expansion m =>
      rcases exec_bind_error_iff.mp h with h | ⟨value, w₁, hv, h⟩
      · obtain ⟨hm, he⟩ := (exec_fact_fault_iff ht hw).mp h
        exact ⟨⟨[], m, rest, "", w, rfl, hm, rfl⟩, he⟩
      · have kept : I w₁.state := ht.kept (fact_composed explaining domain m.letter).asksOnly hw hv
        rcases exec_bind_error_iff.mp h with h | ⟨later, w₂, -, h⟩
        · obtain ⟨⟨before, m', after, text', w', rfl, hm, hb⟩, he⟩ := ih kept h
          have passed : exec answer context (expandTokens explaining domain (.expansion m :: before)) w = (.ok _, w') :=
            exec_bind_ok_iff.mpr ⟨value, w₁, hv, exec_bind_ok_iff.mpr ⟨text', w', hb, rfl⟩⟩
          exact ⟨⟨.expansion m :: before, m', after, _, w', rfl, hm, passed⟩, he⟩
        · cases h

theorem exec_of_meetsScope {tokens : List Token} (h : MeetsScope answer context explaining domain tokens w f) :
    (exec answer context (expandTokens explaining domain tokens) w).1 = .error (.fault f) := by
  obtain ⟨⟨before, m, after, text, w', rfl, hm, hb⟩, e, he, rfl⟩ := h
  induction before generalizing w text w' with
  | nil =>
    refine exec_bind_error_iff.mpr (.inl ?_)
    unfold fact
    rw [exec_read_bind, hm]
    dsimp only
    unfold addressText
    rw [he]
    rfl
  | cons token rest ih =>
    cases token with
    | literal _ =>
      obtain ⟨later, w₁, hl, -⟩ := exec_bind_ok_iff.mp hb
      exact exec_bind_error_iff.mpr (.inl (ih later w₁ hl))
    | expansion m' =>
      obtain ⟨value, w₁, hv, hb⟩ := exec_bind_ok_iff.mp hb
      obtain ⟨later, w₂, hl, -⟩ := exec_bind_ok_iff.mp hb
      exact exec_bind_error_iff.mpr (.inr ⟨value, w₁, hv, exec_bind_error_iff.mpr (.inl (ih later w₂ hl))⟩)

theorem exec_expandTokens_fault_iff (ht : Truthful answer I) (hw : I w.state) {tokens : List Token} :
    (exec answer context (expandTokens explaining domain tokens) w).1 = .error (.fault f) ↔
      MeetsScope answer context explaining domain tokens w f :=
  ⟨meetsScope_of_exec ht hw, exec_of_meetsScope⟩

theorem exec_expand_fault_iff (ht : Truthful answer I) (hw : I w.state) {text : String} :
    (exec answer context (expand explaining domain text) w).1 = .error (.fault f) ↔
      MacroHazard answer context explaining domain text w f := by
  unfold expand
  cases hr : readTokens explaining text.toList with
  | error x =>
    constructor
    · intro h
      cases x with
      | position n => cases h
      | numeral e =>
        cases h
        exact .numeral hr rfl
    · rintro (⟨h, rfl⟩ | ⟨h, -⟩)
      · rw [hr] at h
        cases h
        rfl
      · rw [hr] at h
        cases h
  | ok tokens =>
    refine (exec_expandTokens_fault_iff ht hw).trans ⟨.scope hr, ?_⟩
    rintro (⟨h, -⟩ | ⟨h, hs⟩)
    · rw [hr] at h
      cases h
    · rw [hr] at h
      cases h
      exact hs

/-- The name to which a term leads is found without fault, unless the client has a scope. -/
theorem exec_targetName_fault_iff (ht : Truthful answer I) (hw : I w.state) {spec : String} (hr : Record.SpecReads spec) :
    (exec answer context (targetName domain spec) w).1 = .error (.fault f) ↔ SpecHazard answer context domain spec w f := by
  obtain ⟨tokens, hr⟩ := hr
  have whole : (exec answer context (targetName domain spec) w).1 = .error (.fault f) ↔
      (exec answer context (expandDomainSpec domain spec) w).1 = .error (.fault f) := by
    refine exec_bind_error_iff.trans (or_iff_left ?_)
    rintro ⟨target, w', -, h⟩
    split at h <;> cases h
  rw [whole]
  unfold SpecHazard expandDomainSpec
  by_cases empty : spec = ""
  · rw [if_pos empty, empty]
    exact ⟨nofun, fun h => absurd h.1 (by decide)⟩
  · rw [if_neg empty]
    cases macros : spec.toList.contains '%' with
    | false => exact ⟨nofun, fun h => absurd h.1 nofun⟩
    | true =>
      rw [if_neg (by simp), exec_bind_error_iff]
      unfold expand
      rw [hr]
      dsimp only
      rw [exec_expandTokens_fault_iff ht hw]
      simp

/-- A lookup is counted, and then the name to which a term leads is to be found. -/
def CountedHazard (answer : Question → σ → Answer × σ) (context : Context) (domain spec : String) (w : World σ)
    (f : Fault) : Prop :=
  ∃ w', exec answer context countLookup w = (.ok (), w') ∧ SpecHazard answer context domain spec w' f

theorem exec_countedTarget_fault_iff (ht : Truthful answer I) (hw : I w.state) {spec : String}
    (hr : Record.SpecReads spec) :
    (exec answer context (countedTarget domain spec) w).1 = .error (.fault f) ↔
      CountedHazard answer context domain spec w f := by
  unfold countedTarget CountedHazard
  rw [exec_bind_error_iff]
  constructor
  · rintro (h | ⟨_, w', hc, h⟩)
    · exact absurd h (faultless_countLookup w hw f)
    · exact ⟨w', hc, (exec_targetName_fault_iff ht (ht.kept .countLookup hw hc) hr).mp h⟩
  · rintro ⟨w', hc, h⟩
    exact .inr ⟨(), w', hc, (exec_targetName_fault_iff ht (ht.kept .countLookup hw hc) hr).mpr h⟩

/-! ### Explanations -/

/-- What makes an explanation end in a fault: its target, or the only text record of the target. -/
inductive ExplanationHazard (answer : Question → σ → Answer × σ) (context : Context) (m : Modifier) (domain : String)
    (w : World σ) : Fault → Prop
  | target {f : Fault} (h : SpecHazard answer context domain m.macroString w f) : ExplanationHazard answer context m domain w f
  | text {target text : String} {w' : World σ} {f : Fault}
      (ht : exec answer context (uncounted (targetName domain m.macroString)) w = (.ok target, w'))
      (hr : (answer ⟨target, .txt, .explanation⟩ w'.state).1 = .ok [text])
      (h : MacroHazard answer context true domain text
        ⟨w'.counters, (answer ⟨target, .txt, .explanation⟩ w'.state).2⟩ f) :
      ExplanationHazard answer context m domain w f

theorem exec_explanationAt_fault_iff (ht : Truthful answer I) (hw : I w.state) {target : String} :
    (exec answer context (explanationAt domain target) w).1 = .error (.fault f) ↔
      ∃ text, (answer ⟨target, .txt, .explanation⟩ w.state).1 = .ok [text] ∧ MacroHazard answer context true domain text
        ⟨w.counters, (answer ⟨target, .txt, .explanation⟩ w.state).2⟩ f := by
  have kept := ht.keep ⟨target, .txt, .explanation⟩ w.state (fun _ => nofun) hw
  unfold explanationAt attempt
  rw [exec_bind, exec_ofInquiry, show texts .explanation target = records ⟨target, .txt, .explanation⟩ from rfl, run_records]
  dsimp only
  have macros : ∀ text s, I s → ((exec answer context (some <$> expand true domain text) ⟨w.counters, s⟩).1 =
      .error (.fault f) ↔ MacroHazard answer context true domain text ⟨w.counters, s⟩ f) := by
    intro text s hs
    rw [exec_map, ← exec_expand_fault_iff ht (w := ⟨w.counters, s⟩) hs]
    rcases (exec answer context (expand true domain text) ⟨w.counters, s⟩).1 with x | _ <;> simp [Except.map]
  generalize answer ⟨target, .txt, .explanation⟩ w.state = r at kept
  obtain ⟨e | texts, s⟩ := r
  · constructor
    · cases e <;> exact nofun
    · rintro ⟨text, h, -⟩
      cases h
  · rcases texts with _ | ⟨text, _ | ⟨other, rest⟩⟩
    · exact ⟨nofun, fun ⟨_, h, _⟩ => by cases h⟩
    · refine (macros text s kept).trans ⟨fun h => ⟨text, rfl, h⟩, ?_⟩
      rintro ⟨_, h, hx⟩
      cases h
      exact hx
    · exact ⟨nofun, fun ⟨_, h, _⟩ => by cases h⟩

theorem exec_explanation_fault_iff (ht : Truthful answer I) (hw : I w.state) {m : Modifier}
    (hm : Record.SpecReads m.macroString) :
    (exec answer context (explanation m domain) w).1 = .error (.fault f) ↔
      ExplanationHazard (fun q => answer { q with purpose := .explanation }) context m domain w f := by
  rw [explanation_eq, exec_askedFor]
  have ht := ht.askedFor .explanation
  generalize (fun q : Question => answer { q with purpose := .explanation }) = answer at ht
  -- errors of policies mean that there is no explanation, but faults are not caught
  have caught : (exec answer context (tryCatch (uncounted (targetName domain m.macroString) >>= explanationAt domain)
        excused) w).1 = .error (.fault f) ↔
      (exec answer context (uncounted (targetName domain m.macroString) >>= explanationAt domain) w).1 =
        .error (.fault f) := by
    rw [exec_excused]
    rcases exec answer context (uncounted (targetName domain m.macroString) >>= explanationAt domain) w with
      ⟨(e | f') | text, w'⟩ <;> simp [excusing]
  have counted : AsksOnly Question.Standard (uncounted (targetName domain m.macroString)) :=
    .uncounted (targetName_composed domain _).asksOnly
  rw [caught, exec_bind_error_iff, exec_uncounted, exec_targetName_fault_iff ht hw hm, ← exec_uncounted]
  constructor
  · rintro (h | ⟨target, w', htarget, h⟩)
    · exact .target h
    · obtain ⟨text, hr, hx⟩ := (exec_explanationAt_fault_iff ht (ht.kept counted hw htarget)).mp h
      exact .text htarget hr hx
  · intro h
    cases h with
    | target h => exact .inl h
    | @text target text w' _ htarget hr hx =>
      exact .inr ⟨target, w', htarget, (exec_explanationAt_fault_iff ht (ht.kept counted hw htarget)).mpr ⟨text, hr, hx⟩⟩

theorem exec_directiveVerdict_fault_iff (ht : Truthful answer I) (hw : I w.state) {d : Directive}
    (hd : d.qualifier.result?.isSome) {exp : Option Modifier} (he : ∀ m, exp = some m → Record.SpecReads m.macroString) :
    (exec answer context (directiveVerdict d exp domain) w).1 = .error (.fault f) ↔ d.qualifier = .minus ∧ ∃ m, exp = some m ∧
      ExplanationHazard (fun q => answer { q with purpose := .explanation }) context m domain w f := by
  unfold directiveVerdict
  rw [exec_read_bind]
  dsimp only
  cases hq : d.qualifier with
  | unknown sign =>
    rw [hq] at hd
    cases hd
  | minus =>
    cases exp with
    | none => simp [Qualifier.result?]
    | some m =>
      refine (exec_bind_error_iff.trans (or_iff_left ?_)).trans ((exec_explanation_fault_iff ht hw (he m rfl)).trans ?_)
      · rintro ⟨text, w', -, h⟩
        cases h
      · simp
  | _ => simp [Qualifier.result?]

end

end Evaluation

/-! ### Tests of directives -/

namespace Evaluation

section
variable {answer : Question → σ → Answer × σ} {context : Context} {I : σ → Prop} {domain : String}
  {policy : String → Evaluation Verdict}

/-- A confirmed name of the client is a target or lies below it. -/
def anyConfirmedBelow (target : String) : Evaluation Bool := do
  match ← clientNames with
  | .error _ => pure false
  | .ok names =>
    pure (names.any fun name =>
      let name := Domain.withoutDots name
      name == target || Domain.isBelow target name)

theorem matchesConfirmedName_eq (d : Directive) (domain : String) :
    matchesConfirmedName d domain = countLookup >>= fun _ => targetName domain d.value >>= fun target =>
      anyConfirmedBelow (Domain.withoutDots (Text.lower target)) :=
  rfl

theorem matchesNetwork_faultless (family : Family) (d : Directive) :
    Faultless answer context I (matchesNetwork family d) := by
  unfold matchesNetwork
  split
  · exact faultless_throwPolicy _
  · split
    · exact .reading (faultless_pure _)
    · exact faultless_throwPolicy _

/-- The test of a directive other than an include counts a lookup and finds its target, and what follows is without
fault. -/
theorem exists_faultless_of_targets (ht : Truthful answer I) {d : Directive} {spec : String} (h : d.Targets spec)
    (hi : d.mechanism ≠ .incl) : ∃ g : String → Evaluation Bool,
      (∀ w, exec answer context (matchesClient policy d domain) w = exec answer context (countedTarget domain spec >>= g) w) ∧
        ∀ target, Faultless answer context I (g target) := by
  unfold countedTarget
  cases h with
  | value hm =>
    rcases hm with hm | hm | hm
    · exact absurd hm hi
    · refine ⟨fun target => anyConfirmedBelow (Domain.withoutDots (Text.lower target)), fun w => ?_, fun target => ?_⟩
      · unfold matchesClient
        rw [hm, matchesConfirmedName_eq, bind_assoc]
      · exact .bind ht (clientNames_faultless ht) clientNames_composed.asksOnly fun r => by
          cases r <;> exact faultless_pure _
    · refine ⟨fun target => hostAddresses target .v4 >>= fun found => pure (!found.isEmpty), fun w => ?_, fun target => ?_⟩
      · unfold matchesClient matchesExistence
        rw [hm, bind_assoc]
      · exact .bind ht (hostAddresses_faultless ht target .v4) (hostAddresses_composed target .v4).asksOnly fun _ =>
          faultless_pure _
  | @cidr c hm hc =>
    rcases hm with hm | hm
    · refine ⟨fun target => read >>= fun context => hostAddresses target context.address.family >>= isAmong c,
        fun w => ?_, fun target => ?_⟩
      · unfold matchesClient matchesHost
        rw [hm, hc, bind_assoc]
        rfl
      · have among : Faultless answer context I
            (hostAddresses target context.address.family >>= fun found => isAmong c found >>= pure) :=
          hostAddresses_isAmong_faultless ht target c _ faultless_pure
        simp only [bind_pure] at among
        exact .reading among
    · refine ⟨fun target => attempt (records ⟨target, .mx, .mechanism⟩) >>= fun r =>
        withMailHosts c target (r.bind readMailHosts), fun w => ?_, fun target => ?_⟩
      · unfold matchesClient
        rw [hm]
        dsimp only
        rw [matchesMailHost_eq, hc, bind_assoc]
        rfl
      · exact .bind ht (faultless_ofInquiry _) (.ofInquiry (records_asksOnly fun _ => nofun)) fun r =>
          withMailHosts_faultless ht c target _

end

end Evaluation

/-! ### Visits -/

namespace Visit

/-- What makes a visit itself, and not one that it leads to, end in a fault: its record has a numeral with too many
digits; its search comes to a mechanism with an unknown name; or the name to which a directive, the redirect or the
explanation of a failure leads, or the text of that explanation, meets a hazard. -/
inductive Hazard (answer : Question → σ → Answer × σ) (context : Context) (v : Visit σ) : Fault → Prop
  | record {f : Fault} (hl : 0 < v.levels) (hv : Domain.isValid v.domain = true)
      (hr : Record.readFound context.receiver.strict v.domain (answer (Record.question v.domain) v.world.state).1 =
        .error (.fault f)) : Hazard answer context v f
  | mechanism {found : Modifiers} {d : Directive} {rest : List Term} {w : World σ} {name : String}
      (h : v.Searches answer context found (.directive d :: rest) w) (hm : d.mechanism = .unknown name) :
      Hazard answer context v (.unknownMechanism name)
  | target {found : Modifiers} {d : Directive} {rest : List Term} {w : World σ} {spec : String} {f : Fault}
      (h : v.Searches answer context found (.directive d :: rest) w) (ht : d.Targets spec)
      (hx : CountedHazard answer context v.domain spec w f) : Hazard answer context v f
  | redirect {found : Modifiers} {m : Modifier} {w : World σ} {f : Fault} (h : v.Searches answer context found [] w)
      (hm : found.redirect = some m) (hx : CountedHazard answer context v.domain m.macroString w f) :
      Hazard answer context v f
  | explanation {found : Modifiers} {d : Directive} {rest : List Term} {m : Modifier} {w w' : World σ} {f : Fault}
      (h : v.Searches answer context found (.directive d :: rest) w) (ht : v.Tests answer context d w true w')
      (hq : d.qualifier = .minus) (he : v.explain = true) (hm : found.exp = some m)
      (hx : ExplanationHazard (fun q => answer { q with purpose := .explanation }) context m v.domain w' f) :
      Hazard answer context v f

section
variable {answer : Question → σ → Answer × σ} {context : Context} {I : σ → Prop} {v v' : Visit σ} {f : Fault}

theorem accepted_of_searches {found : Modifiers} {d : Directive} {rest : List Term} {w : World σ}
    (h : v.Searches answer context found (.directive d :: rest) w) :
    (Term.directive d).Accepted v.domain Record.defaultMarker := by
  obtain ⟨record, terms, hread, -, within⟩ := exists_read_of_searches h
  exact accepted_of_read hread _ (within _ List.mem_cons_self)

/-- The names to which the redirect and the explanation of a record lead can be read. -/
theorem specReads_of_searches {found : Modifiers} {rest : List Term} {w : World σ}
    (h : v.Searches answer context found rest w) {m : Modifier} (hm : found.redirect = some m ∨ found.exp = some m) :
    Record.SpecReads m.macroString := by
  obtain ⟨record, terms, hread, hf, -⟩ := exists_read_of_searches h
  obtain ⟨redirect, exp⟩ := mem_of_collectModifiers (m := m) hf
  rcases hm with hm | hm
  · obtain ⟨mem, isRedirect⟩ := redirect hm
    exact (accepted_of_read hread _ mem).specReads_modifier (by simp [isRedirect])
  · obtain ⟨mem, isExplanation⟩ := exp hm
    exact (accepted_of_read hread _ mem).specReads_modifier (by simp [isExplanation])

theorem test_composed (d : Directive) : Composed (v.test d) :=
  matchesClient_composed (fun target => (policyOf_concluding _ target false).composed_of_false) d v.domain

theorem test_asksOnly (d : Directive) : AsksOnly Question.Standard (v.test d) := (test_composed d).asksOnly

theorem countedTarget_asksOnly (domain spec : String) : AsksOnly Question.Standard (countedTarget domain spec) :=
  .bind .countLookup fun _ => (targetName_composed domain spec).asksOnly

theorem kept_of_searches (ht : Truthful answer I) (hv : I v.world.state) {found : Modifiers} {rest : List Term} {w : World σ}
    (h : v.Searches answer context found rest w) : I w.state := by
  refine h.keeps (P := fun w => I w.state) (fun terms w₀ ho => ?_) fun d w₁ w' hw htest => ?_
  · rw [(exec_policyTerms_ok_iff.mp ho.2).2.2]
    exact ht.keep _ _ (fun _ => nofun) hv
  · exact ht.kept (test_asksOnly d) hw htest

theorem kept_of_enters (ht : Truthful answer I) (hv : I v.world.state) (h : v.Enters answer context v') :
    I v'.world.state := by
  rcases h with ⟨found, d, rest, w, hs, -, target, w', he, rfl⟩ | ⟨found, m, w, target, w', hs, -, he, rfl⟩
  · exact ht.kept (countedTarget_asksOnly _ _) (kept_of_searches ht hv hs) he
  · exact ht.kept (countedTarget_asksOnly _ _) (kept_of_searches ht hv hs) he

theorem exec_fault_of_enters (h : v.Enters answer context v') (hv : (v'.exec answer context).1 = .error (.fault f)) :
    (v.exec answer context).1 = .error (.fault f) := by
  obtain ⟨reference, ended⟩ := exec_error_of_enters h (Prod.ext hv rfl)
  rw [ended]
  rfl

/-- The test of a directive with a target, other than an include, ends in a fault if finding the target does. -/
theorem exec_test_fault_iff (ht : Truthful answer I) {d : Directive} {spec : String} (hd : d.Targets spec)
    (hi : d.mechanism ≠ .incl) (hr : Record.SpecReads spec) {w : World σ} (hw : I w.state) :
    (Evaluation.exec answer context (v.test d) w).1 = .error (.fault f) ↔
      CountedHazard answer context v.domain spec w f := by
  obtain ⟨g, hg, faultless⟩ : ∃ g : String → Evaluation Bool,
      (∀ w, Evaluation.exec answer context (v.test d) w =
        Evaluation.exec answer context (countedTarget v.domain spec >>= g) w) ∧
      ∀ target, Faultless answer context I (g target) := exists_faultless_of_targets ht hd hi
  rw [hg, exec_bind_error_iff, exec_countedTarget_fault_iff ht hw hr]
  refine or_iff_left ?_
  rintro ⟨target, w', htarget, h⟩
  exact faultless target w' (ht.kept (countedTarget_asksOnly _ _) hw htarget) f h

theorem exec_test_fault_of_hazard (ht : Truthful answer I) {d : Directive} {spec : String} (hd : d.Targets spec)
    (hr : Record.SpecReads spec) {w : World σ} (hw : I w.state) (h : CountedHazard answer context v.domain spec w f) :
    (Evaluation.exec answer context (v.test d) w).1 = .error (.fault f) := by
  by_cases hi : d.mechanism = .incl
  · have spec_eq : spec = d.value := by
      cases hd with
      | value => rfl
      | cidr hm => simp [hi] at hm
    subst spec_eq
    rw [exec_test_incl hi]
    exact exec_bind_error_iff.mpr (.inl ((exec_countedTarget_fault_iff ht hw hr).mpr h))
  · exact (exec_test_fault_iff ht hd hi hr hw).mpr h

/-- A test that is no include ends in a fault only by a hazard of the visit. -/
theorem hazard_of_test (ht : Truthful answer I) (hv : I v.world.state) {found : Modifiers} {d : Directive}
    {rest : List Term} {w : World σ} (hs : v.Searches answer context found (.directive d :: rest) w)
    (hi : d.mechanism ≠ .incl) (hx : (Evaluation.exec answer context (v.test d) w).1 = .error (.fault f)) :
    v.Hazard answer context f := by
  have kept := kept_of_searches ht hv hs
  have accepted := accepted_of_searches hs
  have aimed (spec : String) (hd : d.Targets spec) : v.Hazard answer context f :=
    .target hs hd ((exec_test_fault_iff ht hd hi (accepted.specReads hd) kept).mp hx)
  unfold test matchesClient at hx
  cases hm : d.mechanism with
  | incl => exact absurd hm hi
  | ptr => exact aimed _ (.value (.inr (.inl hm)))
  | «exists» => exact aimed _ (.value (.inr (.inr hm)))
  | a =>
    -- prefix lengths that cannot be split off are found when the record is read
    obtain ⟨cidr, hc⟩ := accepted.exists_cidr (.inl hm)
    exact aimed _ (.cidr (.inl hm) hc)
  | mx =>
    obtain ⟨cidr, hc⟩ := accepted.exists_cidr (.inr hm)
    exact aimed _ (.cidr (.inr hm) hc)
  | unknown name =>
    rw [hm] at hx
    cases hx
    exact .mechanism hs hm
  | all =>
    rw [hm] at hx
    cases hx
  | ip4 =>
    rw [hm] at hx
    exact absurd hx (matchesNetwork_faultless .v4 d w kept f)
  | ip6 =>
    rw [hm] at hx
    exact absurd hx (matchesNetwork_faultless .v6 d w kept f)

/-- The verdict of a match ends in a fault if the visit explains failures, and the explanation of this one meets a
hazard. -/
theorem exec_verdict_fault_iff (ht : Truthful answer I) (hv : I v.world.state) {found : Modifiers} {d : Directive}
    {rest : List Term} {w w' : World σ} (hs : v.Searches answer context found (.directive d :: rest) w)
    (htest : v.Tests answer context d w true w') :
    (Evaluation.exec answer context (directiveVerdict d (if v.explain then found.exp else none) v.domain) w').1 =
        .error (.fault f) ↔
      d.qualifier = .minus ∧ v.explain = true ∧ ∃ m, found.exp = some m ∧
        ExplanationHazard (fun q => answer { q with purpose := .explanation }) context m v.domain w' f := by
  have kept : I w'.state := ht.kept (test_asksOnly d) (kept_of_searches ht hv hs) htest
  have meant := (accepted_of_searches hs).1.qualifier
  have reads : ∀ m, (if v.explain then found.exp else none) = some m → Record.SpecReads m.macroString := fun m hm =>
    specReads_of_searches hs (.inr (by split at hm <;> simp_all))
  rw [exec_directiveVerdict_fault_iff ht kept meant reads]
  cases v.explain <;> simp

theorem hazard_or_enters (ht : Truthful answer I) (hv : I v.world.state)
    (h : (v.exec answer context).1 = .error (.fault f)) :
    v.Hazard answer context f ∨ ∃ v', v.Enters answer context v' ∧ (v'.exec answer context).1 = .error (.fault f) := by
  cases fails_of_exec h with
  | tooDeep _ hx | clash _ _ hx => cases hx
  | unopened hl hx =>
    rw [exec_policyTerms] at hx
    split at hx
    · rename_i valid
      exact .inl (.record hl valid hx)
    · cases hx
  | verdict hs htest hx =>
    obtain ⟨minus, explain, m, hm, hx⟩ := (exec_verdict_fault_iff ht hv hs htest).mp hx
    exact .inl (.explanation hs htest minus explain hm hx)
  | test hs hi hx => exact .inl (hazard_of_test ht hv hs hi hx)
  | @includeTarget found d rest w hs hi hx =>
    have targets : d.Targets d.value := .value (.inl hi)
    have reads := (accepted_of_searches hs).specReads targets
    exact .inl (.target hs targets ((exec_countedTarget_fault_iff ht (kept_of_searches ht hv hs) reads).mp hx))
  | redirectTarget hs hm hx =>
    have reads := specReads_of_searches hs (.inl hm)
    exact .inl (.redirect hs hm ((exec_countedTarget_fault_iff ht (kept_of_searches ht hv hs) reads).mp hx))
  | entered he hx => exact .inr ⟨_, he, (entered_eq_iff (by simp)).mp hx⟩

theorem exec_fault_of_hazard (ht : Truthful answer I) (hv : I v.world.state) (h : v.Hazard answer context f) :
    (v.exec answer context).1 = .error (.fault f) := by
  cases h with
  | record hl valid hr =>
    obtain ⟨n, hn⟩ : ∃ n, v.levels = n + 1 := ⟨v.levels - 1, by omega⟩
    unfold exec
    rw [hn, policyOf_succ, exec_bind, exec_policyTerms, if_pos valid, hr]
  | @mechanism found d rest w name hs hm =>
    have failed : Evaluation.exec answer context (v.test d) w = (.error (.fault (.unknownMechanism name)), w) := by
      unfold test matchesClient
      rw [hm]
      rfl
    rw [exec_of_test_error hs failed]
  | target hs hd hazard =>
    have failed := exec_test_fault_of_hazard ht hd ((accepted_of_searches hs).specReads hd) (kept_of_searches ht hv hs) hazard
    rw [exec_of_test_error hs (Prod.ext failed rfl)]
  | @redirect found m w _ hs hm hazard =>
    have reads := specReads_of_searches hs (.inl hm)
    rw [exec_of_searches hs (.inr (by simp [hm]))]
    show (Evaluation.exec answer context (withoutMatch _ found.redirect v.domain v.explain) w).1 = _
    rw [hm, exec_withoutMatch_some, exec_bind_error_iff,
      exec_countedTarget_fault_iff ht (kept_of_searches ht hv hs) reads]
    exact .inl hazard
  | @explanation found d rest m w w' _ hs htest minus explain hm hazard =>
    rw [exec_of_tests hs htest]
    exact (exec_verdict_fault_iff ht hv hs htest).mpr ⟨minus, explain, m, hm, hazard⟩

/-- A visit ends in a fault if and only if the visits that follow from it come to the hazard of that fault. -/
theorem exec_fault_iff (ht : Truthful answer I) (hv : I v.world.state) :
    (v.exec answer context).1 = .error (.fault f) ↔
      ∃ v', ReflTransGen (Enters answer context) v v' ∧ v'.Hazard answer context f := by
  constructor
  · intro h
    refine exists_last_of_leads id (P := fun v => I v.world.state ∧ (v.exec answer context).1 = .error (.fault f)) ?_ ⟨hv, h⟩
    rintro v ⟨hv, h⟩
    exact (hazard_or_enters ht hv h).imp_right fun ⟨v', he, h'⟩ => ⟨v', he, kept_of_enters ht hv he, h'⟩
  · rintro ⟨v', hr, hazard⟩
    induction hr using ReflTransGen.head_induction_on with
    | refl => exact exec_fault_of_hazard ht hv hazard
    | head he _ ih => exact exec_fault_of_enters he (ih (kept_of_enters ht hv he))

end

end Visit

/-! ### The faults that there are -/

/-- The faults for which a check of a context has hazards. -/
inductive Fault.Escapes (context : Context) : Fault → Prop
  | numeral {e : Text.NumeralError} (h : e.Overlong) : Escapes context (.numeral e)
  | scopedAddress {e : Address.GroupsError} (h : context.address.IsScoped) : Escapes context (.scopedAddress e)
  | unknownMechanism {name : String} (h : ∃ c ∈ name.toList, 128 ≤ c.toNat) : Escapes context (.unknownMechanism name)

section
variable {answer : Question → σ → Answer × σ} {context : Context} {domain : String} {w : World σ} {f : Fault}

theorem Fault.Overlong.escapes (h : f.Overlong) : f.Escapes context := by
  cases f with
  | numeral => exact .numeral h
  | _ => cases h

theorem Evaluation.MeetsScope.escapes {explaining : Bool} {tokens : List Token}
    (h : MeetsScope answer context explaining domain tokens w f) : f.Escapes context := by
  obtain ⟨-, e, he, rfl⟩ := h
  exact .scopedAddress (Address.macroText_error_iff.mp ⟨e, he⟩)

theorem Evaluation.SpecHazard.escapes {spec : String} (h : SpecHazard answer context domain spec w f) :
    f.Escapes context := by
  obtain ⟨-, tokens, -, hs⟩ := h
  exact hs.escapes

theorem Evaluation.CountedHazard.escapes {spec : String} (h : CountedHazard answer context domain spec w f) :
    f.Escapes context := by
  obtain ⟨w', -, hazard⟩ := h
  exact hazard.escapes

theorem Evaluation.ExplanationHazard.escapes {m : Modifier} (h : ExplanationHazard answer context m domain w f) :
    f.Escapes context := by
  cases h with
  | target h => exact h.escapes
  | text _ _ h =>
    cases h with
    | numeral hr hf => exact hf ▸ .numeral (overlong_of_readTokens hr)
    | scope _ hs => exact hs.escapes

theorem Record.overlong_of_readFound {strict : Bool} {reply : Answer}
    (h : Record.readFound strict domain reply = .error (.fault f)) : f.Overlong := by
  unfold Record.readFound at h
  split at h
  · cases h
  · split at h
    · cases h
    · exact Record.overlong_of_read h

theorem Visit.Hazard.escapes {v : Visit σ} (h : v.Hazard answer context f) : f.Escapes context := by
  cases h with
  | record _ _ hr => exact (Record.overlong_of_readFound hr).escapes
  | mechanism hs hm => exact .unknownMechanism ((accepted_of_searches hs).1.mechanism _ hm)
  | target _ _ hx => exact hx.escapes
  | redirect _ _ hx => exact hx.escapes
  | explanation _ _ _ _ _ hx => exact hx.escapes

end

/-! ### Checks -/

section
variable {client : Client} {receiver : Receiver} {ip domain sender helo : String} {state : ClientState}

theorem ofText_ok_of_isSome (h : (Address.ofText? ip).isSome) :
    ∃ context, Context.ofText receiver ip sender helo = .ok context := by
  obtain ⟨address, ha⟩ := Option.isSome_iff_exists.mp h
  unfold Context.ofText
  rw [ha]
  exact ⟨_, rfl⟩

/-- A check ends in the fault of the visit that meets a hazard. -/
theorem checkHost_error_iff {context : Context} (hc : Context.ofText receiver ip sender helo = .ok context)
    (hr : client.resolver.GivesAddresses) (hs : state.cache.HoldsAddresses) {f : Fault} :
    (client.run (checkHost receiver ip domain sender helo) state).1 = .error f ↔
      ∃ v, ReflTransGen (Visit.Enters client.answers context) (Visit.first context domain state) v ∧
        v.Hazard client.answers context f := by
  have kept : (Visit.first context domain state).world.state.cache.HoldsAddresses := hs
  rw [← Visit.exec_fault_iff (Client.answers_truthful hr) kept]
  show ((checkHost receiver ip domain sender helo).run client.answers state).1 = _ ↔ _
  rw [run_checkHost hc, Context.check_eq_exec]
  dsimp only
  rcases (Visit.first context domain state).exec client.answers context with ⟨(e | e) | verdict, w⟩
  · simp [Outcome.ofResult]
  · simp [Outcome.ofResult]
  · simp [Outcome.ofResult]

/-- With addresses as address records, a check of an address comes to a verdict if and only if no visit of it meets
a hazard. Only numerals with too many digits, addresses with a scope and mechanisms with letters outside ASCII are
hazards. -/
theorem checkHost_ok_iff (hip : (Address.ofText? ip).isSome) (hr : client.resolver.GivesAddresses)
    (hs : state.cache.HoldsAddresses) :
    ∃ context, Context.ofText receiver ip sender helo = .ok context ∧
      ((∃ verdict, (client.run (checkHost receiver ip domain sender helo) state).1 = .ok verdict) ↔
        ∀ v, ReflTransGen (Visit.Enters client.answers context) (Visit.first context domain state) v →
          ∀ f, ¬ v.Hazard client.answers context f) ∧
      ∀ f, (client.run (checkHost receiver ip domain sender helo) state).1 = .error f → f.Escapes context := by
  obtain ⟨context, hc⟩ : ∃ context, Context.ofText receiver ip sender helo = .ok context := ofText_ok_of_isSome hip
  refine ⟨context, hc, ⟨?_, ?_⟩, ?_⟩
  · rintro ⟨verdict, hv⟩ v hreach f hazard
    rw [(checkHost_error_iff hc hr hs).mpr ⟨v, hreach, hazard⟩] at hv
    cases hv
  · intro free
    cases hf : (client.run (checkHost receiver ip domain sender helo) state).1 with
    | ok verdict => exact ⟨verdict, rfl⟩
    | error f =>
      obtain ⟨v, hreach, hazard⟩ := (checkHost_error_iff hc hr hs).mp hf
      exact absurd hazard (free v hreach f)
  · intro f hf
    obtain ⟨v, -, hazard⟩ := (checkHost_error_iff hc hr hs).mp hf
    exact hazard.escapes

end

/-- A zone with a host that has an address of each family. -/
def twoFamiliesZone : Zone :=
  [("example.com", [("TXT", .fixed (.ok [.text "v=spf1 a:%{d1}.example.com -all"]))]),
   ("com.example.com", [("A", .fixed (.ok [.text "192.0.2.5"])), ("AAAA", .fixed (.ok [.text "2001:db8::5"]))])]

theorem checkHost_ok_twoFamiliesZone :
    ∃ context, Context.ofText { clock := .whole 0 } "2001:db8::5" "user@example.com" "" = .ok context ∧
      ∀ v, ReflTransGen (Visit.Enters (Client.ofZone twoFamiliesZone).answers context)
        (Visit.first context "example.com" ClientState.unasked) v →
        ∀ f, ¬ v.Hazard (Client.ofZone twoFamiliesZone).answers context f := by
  have addresses : (Client.ofZone twoFamiliesZone).resolver.GivesAddresses :=
    givesAddresses_resolver (by decide)
  have run : ((Client.ofZone twoFamiliesZone).run
      (checkHost { clock := .whole 0 } "2001:db8::5" "example.com" "user@example.com" "") ClientState.unasked).1 =
      .ok ⟨.pass, "Allowed sender IP: 2001:db8::5"⟩ := by decide +kernel
  obtain ⟨context, hc, free, -⟩ := @checkHost_ok_iff (Client.ofZone twoFamiliesZone) { clock := .whole 0 } "2001:db8::5"
    "example.com" "user@example.com" "" ClientState.unasked (by decide) addresses (fun _ => nofun)
  exact ⟨context, hc, free.mp ⟨_, run⟩⟩

/-- A zone with a directive whose mechanism has a name with a dotless letter. -/
def dotlessZone : Zone := [("example.com", [("TXT", .fixed (.ok [.text "v=spf1 \u0131p4:1.2.3.4 -all"]))])]

theorem checkHost_dotlessZone :
    (Address.ofText? "192.0.2.5").isSome ∧ (Client.ofZone dotlessZone).resolver.GivesAddresses ∧
      ClientState.unasked.cache.HoldsAddresses ∧
      ((Client.ofZone dotlessZone).run
        (checkHost { clock := .whole 0 } "192.0.2.5" "example.com" "user@example.com" "") ClientState.unasked).1 =
        .error (.unknownMechanism "\u0131p4") :=
  ⟨by decide +kernel, givesAddresses_resolver (by decide +kernel), fun _ => nofun, by decide +kernel⟩

end SenderPolicy
