import SenderPolicy.Proofs.CallBound

/-! Explanations change no verdict. The evaluation of a policy that explains a failure and the one that does not are the
same program, but for one explanation at the very end of the first. So both come to one result and count the same, and
what the first one asks more is what it asks for that explanation, when the failure has been decided on. -/

namespace SenderPolicy

open Dns Evaluation

variable {σ α : Type}

namespace Evaluation

/-! ### Programs -/

/-- Two evaluations differ only in that the first one may explain the failure in which both end. -/
inductive Unexplained : Evaluation Verdict → Evaluation Verdict → Prop
  | same (e : Evaluation Verdict) : Unexplained e e
  | bind {α : Type} (e : Evaluation α) {f g : α → Evaluation Verdict} (h : ∀ a, Unexplained (f a) (g a)) :
      Unexplained (e >>= f) (e >>= g)
  | entering (reference : Reference) (target : String) {e e' : Evaluation Verdict} (h : Unexplained e e') :
      Unexplained (entering reference target e) (entering reference target e')
  | explained (m : Modifier) (domain : String) (shown : Option String → String) :
      Unexplained (explanation m domain >>= fun text => pure ⟨.fail, shown text⟩) (pure ⟨.fail, shown none⟩)

theorem directiveVerdict_unexplained (d : Directive) (exp : Option Modifier) (domain : String) :
    Unexplained (directiveVerdict d exp domain) (directiveVerdict d none domain) := by
  refine .bind read fun context => ?_
  dsimp only
  split
  · exact .same _
  · exact .same _
  · cases exp with
    | none => exact .same _
    | some m => exact .explained m domain _
  · exact .same _

section
variable {policy : PolicyEvaluation} (hp : ∀ target, Unexplained (policy target true) (policy target false))
include hp

theorem withoutMatch_unexplained (redirect : Option Modifier) (domain : String) :
    Unexplained (withoutMatch policy redirect domain true) (withoutMatch policy redirect domain false) := by
  cases redirect with
  | none => exact .same _
  | some m => exact .bind countLookup fun _ => .bind _ fun target => .entering .redirect target (hp target)

theorem evaluateDirectives_unexplained (found : Modifiers) (domain : String) :
    ∀ terms, Unexplained (evaluateDirectives policy found domain true terms) (evaluateDirectives policy found domain false terms)
  | [] => withoutMatch_unexplained hp found.redirect domain
  | .modifier _ :: rest => evaluateDirectives_unexplained found domain rest
  | .directive d :: rest =>
    -- an included policy is not explained in either of them, so the tests are the same
    .bind (matchesClient (policy · false) d domain) fun matched => by
      cases matched with
      | true => exact directiveVerdict_unexplained d found.exp domain
      | false => exact evaluateDirectives_unexplained found domain rest

theorem evaluateTerms_unexplained (terms : List Term) (domain : String) :
    Unexplained (evaluateTerms policy terms domain true) (evaluateTerms policy terms domain false) := by
  unfold evaluateTerms
  cases collectModifiers domain {} terms with
  | error e => exact .same _
  | ok found => exact evaluateDirectives_unexplained hp found domain terms

end

theorem policyOf_unexplained :
    ∀ (levels : Nat) (domain : String), Unexplained (policyOf levels domain true) (policyOf levels domain false)
  | 0, _ => .same _
  | levels + 1, domain => by
    rw [policyOf_succ, policyOf_succ]
    refine .bind (policyTerms domain) fun terms => ?_
    cases terms with
    | nil => exact .same _
    | cons term rest => exact evaluateTerms_unexplained (policyOf_unexplained levels) (term :: rest) domain

/-! ### Runs -/

section
variable {answer : Question → σ → Answer × σ} {context : Context} {w w₁ : World σ}

/-- The explanation of a failure fails itself only by a fault, so the entry to a policy makes nothing else of it. -/
theorem entered_explained (reference : Reference) (target : String) (m : Modifier) (domain : String)
    (shown : Option String → String) :
    entered reference target (exec answer context (explanation m domain >>= fun text => pure ⟨.fail, shown text⟩) w).1 =
      (exec answer context (explanation m domain >>= fun text => pure ⟨.fail, shown text⟩) w).1 := by
  rcases he : exec answer context (explanation m domain) w with ⟨x | text, w'⟩
  · obtain ⟨f, rfl⟩ := exec_explanation_error he
    rw [exec_bind_of_error he]
    rfl
  · rw [exec_bind_of_ok he]
    rfl

/-- Two runs from one world are the same, or the second one ends in a failure where the first one goes on to explain it. -/
inductive EndAlike (answer : Question → σ → Answer × σ) (context : Context) (e e' : Evaluation Verdict) (w : World σ) : Prop
  | same (ran : exec answer context e w = exec answer context e' w)
      (asked : transcript answer context e w = transcript answer context e' w)
  | explained (m : Modifier) (domain : String) (shown : Option String → String) (w₁ : World σ)
      (decided : exec answer context e' w = (.ok ⟨.fail, shown none⟩, w₁))
      (ran : exec answer context e w = exec answer context (explanation m domain >>= fun text => pure ⟨.fail, shown text⟩) w₁)
      (asked : transcript answer context e w =
        transcript answer context e' w ++ transcript answer context (explanation m domain) w₁)

theorem Unexplained.endAlike {e e' : Evaluation Verdict} (h : Unexplained e e') (w : World σ) :
    EndAlike answer context e e' w := by
  induction h generalizing w with
  | same => exact .same rfl rfl
  | @bind _ e f g _ ih =>
    rcases he : exec answer context e w with ⟨x | a, w'⟩
    · refine .same ?_ ?_
      · rw [exec_bind_of_error he, exec_bind_of_error he]
      · rw [transcript_bind, transcript_bind, he]
    · have asked : ∀ f : _ → Evaluation Verdict, transcript answer context (e >>= f) w =
          transcript answer context e w ++ transcript answer context (f a) w' := fun f => by rw [transcript_bind, he]
      cases ih a w' with
      | same ran same => exact .same (by rw [exec_bind_of_ok he, exec_bind_of_ok he, ran]) (by rw [asked, asked, same])
      | explained m domain shown w₁ decided ran more =>
        refine .explained m domain shown w₁ ?_ ?_ ?_
        · rw [exec_bind_of_ok he, decided]
        · rw [exec_bind_of_ok he, ran]
        · rw [asked, asked, more, List.append_assoc]
  | entering reference target _ ih =>
    cases ih w with
    | same ran same => exact .same (by rw [exec_entering, exec_entering, ran]) (by rw [transcript_entering, transcript_entering, same])
    | explained m domain shown w₁ decided ran more =>
      refine .explained m domain shown w₁ ?_ ?_ ?_
      · rw [exec_entering, decided]
        rfl
      · rw [exec_entering, ran, entered_explained]
      · rw [transcript_entering, transcript_entering, more]
  | explained m domain shown =>
    refine .explained m domain shown w rfl rfl ?_
    rw [transcript_bind]
    rcases exec answer context (explanation m domain) w with ⟨x | text, w'⟩ <;> exact List.append_nil _

end

end Evaluation

/-! ### Terms -/

/-- The calls of an evaluation come on top of those made before. -/
theorem Dns.Client.calls_exec (client : Client) (context : Context) (e : Evaluation α) (w : World ClientState) :
    ∃ made, (Evaluation.exec client.answers context e w).2.state.calls = made ++ w.state.calls := by
  obtain ⟨made, called, -⟩ := client.calls_run (e.inquiry context w.counters) w.state
  exact ⟨made, called⟩

theorem termsAt_unexplained (depth : Int) (terms : List Term) (domain : String) :
    Unexplained (termsAt depth terms domain true) (termsAt depth terms domain false) :=
  .bind read fun _ => evaluateTerms_unexplained (policyOf_unexplained _) terms domain

/-- If terms are evaluated without a fault so that a failure is explained, they come to the same result or error without
any explanation and count the same. The questions and calls without it are those with it up to where the failure has been
decided on; what is asked behind them is asked for one explanation. -/
theorem termsAt_explained {client : Client} {context : Context} {depth : Int} {terms : List Term} {domain : String}
    {w : World ClientState}
    (h : ∀ f, (Evaluation.exec client.answers context (termsAt depth terms domain true) w).1 ≠ .error (.fault f)) :
    let explaining := Evaluation.exec client.answers context (termsAt depth terms domain true) w
    let plain := Evaluation.exec client.answers context (termsAt depth terms domain false) w
    plain.1.map (·.result) = explaining.1.map (·.result) ∧
    plain.2.counters = explaining.2.counters ∧
    transcript client.answers context (termsAt depth terms domain false) w <+:
      transcript client.answers context (termsAt depth terms domain true) w ∧
    (∃ more, explaining.2.state.calls = more ++ plain.2.state.calls) ∧
    (plain = explaining ∨ ∃ m name text, plain.1.map (·.result) = .ok .fail ∧
      Evaluation.exec client.answers context (explanation m name) plain.2 = (.ok text, explaining.2) ∧
      transcript client.answers context (termsAt depth terms domain true) w =
        transcript client.answers context (termsAt depth terms domain false) w ++
          transcript client.answers context (explanation m name) plain.2) := by
  dsimp only
  have alike : EndAlike client.answers context _ _ w := (termsAt_unexplained depth terms domain).endAlike w
  cases alike with
  | same ran asked =>
    rw [ran, asked]
    exact ⟨rfl, rfl, List.prefix_rfl, ⟨[], rfl⟩, .inl rfl⟩
  | explained m name shown w₁ decided ran asked =>
    rcases he : Evaluation.exec client.answers context (explanation m name) w₁ with ⟨x | text, w₂⟩
    · obtain ⟨f, rfl⟩ := exec_explanation_error he
      rw [ran, exec_bind_of_error he] at h
      exact absurd rfl (h f)
    · have counted : (Evaluation.exec client.answers context (explanation m name) w₁).2.counters = w₁.counters :=
        explanation_uncounting m name w₁
      obtain ⟨made, called⟩ := client.calls_exec context (explanation m name) w₁
      rw [he] at counted called
      rw [ran, exec_bind_of_ok he, decided, asked]
      exact ⟨rfl, counted.symm, List.prefix_append .., ⟨made, called⟩, .inr ⟨m, name, text, rfl, he, rfl⟩⟩

/-- A zone in which a redirect leads to a failure that is explained, behind an include whose own failure is not. -/
def explainedZone : Zone :=
  [("next.example.com", [("TXT", .fixed (.ok [.text "v=spf1 include:other.example.com -all exp=why.%{d}"]))]),
   ("other.example.com", [("TXT", .fixed (.ok [.text "v=spf1 -all exp=unasked.example.com"]))]),
   ("why.next.example.com", [("TXT", .fixed (.ok [.text "Not from %{i}"]))])]

theorem termsAt_explainedZone :
    ∃ context, Context.ofText { clock := .whole 0 } "192.0.2.5" "user@example.com" "" = .ok context ∧
      let terms := [Term.modifier ⟨"redirect", "next.example.com", "redirect=next.example.com"⟩]
      let explaining := Evaluation.exec (Client.ofZone explainedZone).answers context (termsAt 0 terms "example.com" true)
        (.fresh .unasked)
      let plain := Evaluation.exec (Client.ofZone explainedZone).answers context (termsAt 0 terms "example.com" false)
        (.fresh .unasked)
      explaining.1 = .ok ⟨.fail, "Not from 192.0.2.5"⟩ ∧ plain.1.map (·.result) = .ok .fail ∧
        plain.2.counters = explaining.2.counters ∧
        ∃ more, explaining.2.state.calls = more ++ plain.2.state.calls := by
  obtain ⟨context, hc⟩ : ∃ context, Context.ofText { clock := .whole 0 } "192.0.2.5" "user@example.com" "" = .ok context :=
    ⟨_, rfl⟩
  have explained : (Evaluation.exec (Client.ofZone explainedZone).answers context
      (termsAt 0 [.modifier ⟨"redirect", "next.example.com", "redirect=next.example.com"⟩] "example.com" true)
      (.fresh .unasked)).1 = .ok ⟨.fail, "Not from 192.0.2.5"⟩ := by
    cases hc
    decide +kernel
  obtain ⟨same, counted, -, called, -⟩ := termsAt_explained fun f hf => by
    rw [explained] at hf
    cases hf
  exact ⟨context, hc, explained, by rw [same, explained]; rfl, counted, called⟩

end SenderPolicy
