import SenderPolicy.Proofs.Decision
import SenderPolicy.Proofs.Metered

/-! Missing policies. That a policy is missing is the outcome of a check only if it is the policy of the checked domain:
the terms of a record never come to it, since every entry to another policy turns it into an error of the term, and that
error ends the check. -/

namespace SenderPolicy

open Dns Evaluation Relation

variable {σ α β : Type}

theorem Failure.OfLookups.not_isMissing {x : Failure} (h : x.OfLookups) : ¬ x.IsMissing := by
  rintro ⟨cause, rfl⟩
  cases h

namespace Evaluation

section
variable {answer : Question → σ → Answer × σ} {context : Context} {w w' : World σ}

/-! ### Failures of terms -/

/-- The evaluation never fails because a policy is missing. -/
def NeverMissing (answer : Question → σ → Answer × σ) (context : Context) (e : Evaluation α) : Prop :=
  ∀ w x, (exec answer context e w).1 = .error x → ¬ x.IsMissing

/-- The entry to a policy lets no failure through that says that a policy is missing. -/
theorem entering_neverMissing (reference : Reference) (target : String) (policy : Evaluation Verdict) :
    NeverMissing answer context (entering reference target policy) := by
  intro w x hx
  rw [exec_entering] at hx
  generalize (exec answer context policy w).1 = r at hx
  rcases r with (e | f) | verdict
  · cases e <;> cases hx <;> exact nofun
  · cases hx
    exact nofun
  · cases hx

/-- An error on the way to an explanation is none of the check. -/
theorem excused_neverMissing (e : Evaluation (Option String)) :
    NeverMissing answer context (askedFor .explanation (tryCatch e excused)) := by
  intro w x hx
  rw [exec_askedFor, exec_excused] at hx
  generalize exec _ context e w = r at hx
  obtain ⟨(e | f) | text, w₁⟩ := r
  · cases hx
  · cases hx
    exact nofun
  · cases hx

/-- What does not look for the record of a domain itself never fails because a policy is missing. -/
theorem Metered.neverMissing {n : ENat} {e : Evaluation α} (h : Metered context.receiver.limits false n e) :
    NeverMissing answer context e := by
  show FailsOnly answer context (¬ ·.IsMissing) e
  generalize hb : false = missable at h
  have counting : ∀ x : Failure, x.OfLookups → ¬ x.IsMissing := fun _ hx => hx.not_isMissing
  induction h with
  | pure a => exact .pure a
  | throw hx => exact .throw hx
  | reading _ ih => exact .reading (ih context rfl hb)
  | countVoidLookup => exact .countVoidLookup counting
  | counted _ ih => exact (FailsOnly.countLookup counting).bind fun _ => ih hb
  | addresses => exact .ofInquiry _
  | mailHosts _ _ _ ih => exact (FailsOnly.ofInquiry _).bind fun r => ih _ hb
  | names => exact .ofInquiry _
  | text target => exact (FailsOnly.ofInquiry _).bind fun r => by split <;> exact .pure _
  | terms => cases hb
  | bind _ _ ih ihf => exact (ih hb).bind fun a => ihf a hb
  | entering => exact entering_neverMissing _ _ _
  | explaining => exact excused_neverMissing _
  | dearer _ _ ih => exact ih hb

/-! ### Verdicts of terms -/

/-- Every verdict of the evaluation is a decision. -/
def Decisive (answer : Question → σ → Answer × σ) (context : Context) (e : Evaluation Verdict) : Prop :=
  ∀ w verdict w', exec answer context e w = (.ok verdict, w') → verdict.result ∈ Result.decisions

theorem decisive_pure {verdict : Verdict} (h : verdict.result ∈ Result.decisions) :
    Decisive answer context (pure verdict) := fun _ _ _ he => by
  cases he
  exact h

theorem decisive_bind {e : Evaluation α} {f : α → Evaluation Verdict} (hf : ∀ a, Decisive answer context (f a)) :
    Decisive answer context (e >>= f) := fun _ _ _ he => by
  obtain ⟨a, w₁, -, he⟩ := exec_bind_ok_iff.mp he
  exact hf a _ _ _ he

theorem directiveVerdict_decisive (d : Directive) (exp : Option Modifier) (domain : String) :
    Decisive answer context (directiveVerdict d exp domain) := fun _ verdict _ he => by
  have meant := Visit.exec_directiveVerdict_ok he
  unfold Qualifier.meanings at meant
  simp only [List.mem_cons, Prod.mk.injEq, List.not_mem_nil, or_false] at meant
  rcases meant with ⟨-, h⟩ | ⟨-, h⟩ | ⟨-, h⟩ | ⟨-, h⟩ <;> rw [h] <;> decide

section
variable {policy : PolicyEvaluation} (hp : ∀ target explain, Decisive answer context (policy target explain))
include hp

theorem evaluateDirectives_decisive (found : Modifiers) (domain : String) (explain : Bool) :
    ∀ terms, Decisive answer context (evaluateDirectives policy found domain explain terms)
  | [] => by
    show Decisive answer context (withoutMatch policy found.redirect domain explain)
    cases found.redirect with
    | none => exact decisive_pure (by decide)
    | some m =>
      exact decisive_bind fun _ => decisive_bind fun target => fun w verdict w' he =>
        hp target explain w verdict w' (exec_entering_ok_iff.mp he)
  | .modifier _ :: rest => evaluateDirectives_decisive found domain explain rest
  | .directive d :: rest => decisive_bind fun matched => by
    cases matched with
    | true => exact directiveVerdict_decisive d _ domain
    | false => exact evaluateDirectives_decisive found domain explain rest

theorem evaluateTerms_decisive (terms : List Term) (domain : String) (explain : Bool) :
    Decisive answer context (evaluateTerms policy terms domain explain) := by
  unfold evaluateTerms
  split
  · exact fun _ _ _ => nofun
  · exact evaluateDirectives_decisive hp _ domain explain terms

end

theorem policyOf_decisive : ∀ (levels : Nat) (domain : String) (explain : Bool),
    Decisive answer context (policyOf levels domain explain)
  | 0, _, _ => fun _ _ _ => nofun
  | levels + 1, domain, explain => by
    rw [policyOf_succ]
    refine decisive_bind fun terms => ?_
    split
    · exact decisive_pure (by decide)
    · exact evaluateTerms_decisive (policyOf_decisive levels) terms domain explain

/-- The terms of a record never come to a missing policy, and their verdicts are decisions. -/
theorem termsAt_settled (depth : Int) (terms : List Term) (domain : String) (explain : Bool) :
    NeverMissing answer context (termsAt depth terms domain explain) ∧
      Decisive answer context (termsAt depth terms domain explain) :=
  ⟨(evaluateTerms_metered (policyOf_metered _) terms domain explain).neverMissing,
    evaluateTerms_decisive (policyOf_decisive _) terms domain explain⟩

end

end Evaluation

/-! ### The record of a domain -/

theorem PolicyError.result_eq_none_iff {e : PolicyError} : e.result = .none ↔ ∃ cause, e = .noPolicy cause := by
  cases e <;> simp [result]

section
variable {answer : Question → σ → Answer × σ} {context : Context}

/-- The terms of a record are missing if the domain is no domain, or if asking for its record says so. -/
theorem exec_policyTerms_missing_iff {domain : String} {w : World σ} :
    (∃ cause, (exec answer context (policyTerms domain) w).1 = .error (.policy (.noPolicy cause))) ↔
      Domain.isValid domain = false ∨
        ∃ cause, ((Record.query .policy context.receiver.strict domain).run.run answer w.state).1 =
          .error (.noPolicy cause) := by
  rw [exec_policyTerms, run_query]
  cases Domain.isValid domain with
  | false => simp
  | true =>
    simp only [↓reduceIte, Bool.true_eq_false, false_or]
    refine exists_congr fun cause => ?_
    unfold Record.readFound
    rcases foundRecords (answer (Record.question domain) w.state).1 with e | texts
    · simp
    · dsimp only
      cases Record.select (Domain.normalized domain) texts with
      | error e => simp
      | ok record =>
        -- a record that is there may be malformed, but it is not missing
        refine ⟨fun h => ?_, nofun⟩
        exact absurd ⟨cause, rfl⟩ (Record.textual_read _ h).not_isMissing

end

namespace Visit

section
variable {answer : Question → σ → Answer × σ} {context : Context} {v v' : Visit σ} {w : World σ}

/-- A visit comes to a missing policy only if its own domain has none. -/
theorem exec_missing_iff (hl : 0 < v.levels) :
    (∃ cause, (v.exec answer context).1 = .error (.policy (.noPolicy cause))) ↔
      ∃ cause, (Evaluation.exec answer context (policyTerms v.domain) v.world).1 = .error (.policy (.noPolicy cause)) := by
  obtain ⟨n, hn⟩ : ∃ n, v.levels = n + 1 := ⟨v.levels - 1, by omega⟩
  unfold exec
  rw [hn, policyOf_succ]
  rcases ht : Evaluation.exec answer context (policyTerms v.domain) v.world with ⟨x | terms, w⟩
  · rw [exec_bind_of_error ht]
    exact exists_congr fun cause => by simp
  · have later : NeverMissing answer context (if terms.isEmpty then pure ⟨.neutral, "No policies specified"⟩
        else evaluateTerms (policyOf n) terms v.domain v.explain) := by
      split
      · exact FailsOnly.pure _
      · exact (evaluateTerms_metered (policyOf_metered n) terms v.domain v.explain).neverMissing
    rw [exec_bind_of_ok ht]
    exact ⟨fun ⟨cause, h⟩ => absurd ⟨cause, rfl⟩ (later w _ h), nofun⟩

/-- An error other than that of a missing policy is handed on through all visits. -/
theorem exec_error_of_reaches (h : ReflTransGen (Enters answer context) v v') {e : PolicyError}
    (he : ∀ cause, e ≠ .noPolicy cause) (hx : v'.exec answer context = (.error (.policy e), w)) :
    v.exec answer context = (.error (.policy e), w) := by
  induction h using ReflTransGen.head_induction_on with
  | refl => exact hx
  | head hs _ ih =>
    obtain ⟨reference, hv⟩ := exec_error_of_enters hs ih
    rw [hv]
    cases e with
    | noPolicy cause => exact absurd rfl (he cause)
    | _ => rfl

end

end Visit

/-! ### Checks -/

section
variable {receiver : Receiver} {ip domain sender helo : String} {context : Context}

/-- The results of a check other than decisions are those of errors. -/
theorem checkHost_result_iff {answer : Question → σ → Answer × σ} (h : Context.ofText receiver ip sender helo = .ok context)
    {s : σ} {result : Result} (hr : result ∉ Result.decisions) :
    ((checkHost receiver ip domain sender helo).run answer s).1.map (·.result) = .ok result ↔
      ∃ e, ((Visit.first context domain s).exec answer context).1 = .error (.policy e) ∧ e.result = result := by
  rw [run_checkHost_eq_exec h]
  rcases he : (Visit.first context domain s).exec answer context with ⟨(e | f) | verdict, w⟩
  · simp [Outcome.ofResult, PolicyError.verdict, Except.map]
  · simp [Outcome.ofResult, Except.map]
  · have decided : verdict.result ∈ Result.decisions := policyOf_decisive _ _ _ _ _ _ he
    simp only [Outcome.ofResult, Except.map, Except.ok.injEq, reduceCtorEq, false_and, exists_false, iff_false]
    rintro rfl
    exact hr decided

/-- If levels may be nested at all, a check comes to no result exactly if the checked domain is no domain or asking for its
record says that there is none. No check comes to the result for local policies, no evaluation of terms comes to a missing
policy or to a verdict that is no decision, and a policy that is missing behind a reference is a permanent error. -/
theorem checkHost_none_iff {client : Client} {state : ClientState} (hn : 0 ≤ receiver.limits.nesting) :
    ((client.run (checkHost receiver ip domain sender helo) state).1.map (·.result) = .ok .none ↔
      (Address.ofText? ip).isSome ∧ (Domain.isValid domain = false ∨
        ∃ cause, (client.run (Record.query .policy receiver.strict domain).run state).1 = .error (.noPolicy cause))) ∧
    (client.run (checkHost receiver ip domain sender helo) state).1.map (·.result) ≠ .ok .policy ∧
    (∀ context depth terms name explain,
      NeverMissing client.answers context (termsAt depth terms name explain) ∧
        Decisive client.answers context (termsAt depth terms name explain)) ∧
    ∀ context v v' cause w, Context.ofText receiver ip sender helo = .ok context →
      ReflTransGen (Visit.Enters client.answers context) (Visit.first context domain state) v →
      v.Enters client.answers context v' → v'.exec client.answers context = (.error (.policy (.noPolicy cause)), w) →
        ∃ reference, (client.run (checkHost receiver ip domain sender helo) state).1 =
          .ok ⟨.permerror, (PolicyError.missingPolicy reference v'.domain cause).message⟩ := by
  refine ⟨?_, ?_, fun context depth terms name explain => termsAt_settled depth terms name explain, ?_⟩
  · cases hc : Context.ofText receiver ip sender helo with
    | error f =>
      rw [Context.ofText_error hc]
      unfold Client.run
      rw [checkHost_of_error hc, Inquiry.run_done]
      simp [Except.map]
    | ok context =>
      obtain ⟨hip, rfl⟩ := Context.ofText_ok hc
      have levels : 0 < (Visit.first context domain state).levels := by
        show 0 < (context.receiver.limits.nesting + 1 - 0).toNat
        omega
      unfold Client.run
      rw [checkHost_result_iff hc (by decide), and_iff_right hip]
      refine Iff.trans ?_ ((Visit.exec_missing_iff levels).trans exec_policyTerms_missing_iff)
      constructor
      · rintro ⟨e, he, hr⟩
        obtain ⟨cause, rfl⟩ := PolicyError.result_eq_none_iff.mp hr
        exact ⟨cause, he⟩
      · rintro ⟨cause, he⟩
        exact ⟨_, he, rfl⟩
  · intro hp
    unfold Client.run at hp
    cases hc : Context.ofText receiver ip sender helo with
    | error f =>
      rw [checkHost_of_error hc] at hp
      cases hp
    | ok context =>
      rw [checkHost_result_iff hc (by decide)] at hp
      obtain ⟨e, -, hr⟩ := hp
      cases e <;> cases hr
  · intro context v v' cause w hc reached he hm
    obtain ⟨reference, hv⟩ := Visit.exec_error_of_enters he hm
    refine ⟨reference, ?_⟩
    unfold Client.run
    rw [run_checkHost_eq_exec hc, Visit.exec_error_of_reaches reached (by exact nofun) hv]
    rfl

/-- A zone whose policy includes that of a name that does not exist. -/
def goneIncludeZone : Zone :=
  [("example.com", [("TXT", .fixed (.ok [.text "v=spf1 include:gone.example.com -all"]))]),
   ("mail.example.com", [("A", .fixed (.ok [.text "192.0.2.5"]))])]

/-- A context for that zone. -/
def goneIncludeContext : Context := ⟨{ clock := .whole 0 }, .v4 0xC0000205, "user", "example.com", ""⟩

/-- Its first directive is the include, which leads to a visit of the missing name. -/
theorem enters_goneIncludeZone :
    ∃ v', (Visit.first goneIncludeContext "example.com" .unasked).Enters (Client.ofZone goneIncludeZone).answers
        goneIncludeContext v' ∧ v'.domain = "gone.example.com" ∧
      (v'.exec (Client.ofZone goneIncludeZone).answers goneIncludeContext).1 = .error (.policy (.noPolicy .domainMissing)) := by
  have opened : (Visit.first goneIncludeContext "example.com" .unasked).Opens (Client.ofZone goneIncludeZone).answers
      goneIncludeContext
      [.directive ⟨.plus, .incl, .colon, "gone.example.com", "include:gone.example.com"⟩,
        .directive ⟨.minus, .all, .absent, "", "-all"⟩]
      ⟨{}, ((Client.ofZone goneIncludeZone).answers (Record.question "example.com") .unasked).2⟩ :=
    ⟨by decide, exec_policyTerms_ok_iff.mpr ⟨by decide, by decide, rfl⟩⟩
  refine ⟨_, .inl ⟨{}, _, _, _, ⟨_, _, opened, rfl, .refl⟩, rfl, "gone.example.com", _, rfl, rfl⟩, rfl, ?_⟩
  decide

theorem checkHost_none_goneIncludeZone :
    ((Client.ofZone goneIncludeZone).run
        (checkHost { clock := .whole 0 } "192.0.2.5" "mail.example.com" "user@example.com" "") .unasked).1.map (·.result) =
      .ok .none ∧
    ∃ reference, ((Client.ofZone goneIncludeZone).run
        (checkHost { clock := .whole 0 } "192.0.2.5" "example.com" "user@example.com" "") .unasked).1 =
      .ok ⟨.permerror, (PolicyError.missingPolicy reference "gone.example.com" .domainMissing).message⟩ := by
  refine ⟨(checkHost_none_iff (by decide)).1.mpr ⟨by decide, .inr ⟨.recordMissing, by decide⟩⟩, ?_⟩
  have hc : Context.ofText { clock := .whole 0 } "192.0.2.5" "user@example.com" "" = .ok goneIncludeContext := by decide
  obtain ⟨v', entered, hd, missing⟩ := enters_goneIncludeZone
  rw [← hd]
  exact (checkHost_none_iff (by decide)).2.2.2 goneIncludeContext _ v' _ _ hc .refl entered (Prod.ext missing rfl)

end

end SenderPolicy
