import SenderPolicy.Proofs.Definitive
import SenderPolicy.Proofs.Metered

/-! The order of terms. The modifiers of a record are collected before its directives are tested, so it does not
matter where they stand, and those that are not known never matter. The directives are tested from the first on,
up to the first that matches or fails, so those behind it do not matter either. -/

namespace SenderPolicy

open Dns Evaluation

variable {σ α β : Type}

/-! ### Sublists of terms -/

/-- Whether the modifier says anything to an evaluation. -/
def Modifier.isEvaluated (m : Modifier) : Bool := m.isRedirect || m.isExplanation

namespace Term

/-- The directives among terms. -/
def directives (terms : List Term) : List Directive := terms.filterMap directive?

/-- The modifiers among terms that say anything to an evaluation. -/
def evaluatedModifiers (terms : List Term) : List Modifier := (terms.filterMap modifier?).filter Modifier.isEvaluated

/-- The terms with the directives in front of the modifiers, and without unknown modifiers. -/
def arranged (terms : List Term) : List Term :=
  (directives terms).map .directive ++ (evaluatedModifiers terms).map .modifier

@[simp] theorem directives_nil : directives [] = [] := rfl

@[simp] theorem directives_cons_directive (d : Directive) (rest : List Term) :
    directives (.directive d :: rest) = d :: directives rest := rfl

@[simp] theorem directives_cons_modifier (m : Modifier) (rest : List Term) :
    directives (.modifier m :: rest) = directives rest := rfl

@[simp] theorem evaluatedModifiers_nil : evaluatedModifiers [] = [] := rfl

@[simp] theorem evaluatedModifiers_cons_directive (d : Directive) (rest : List Term) :
    evaluatedModifiers (.directive d :: rest) = evaluatedModifiers rest := rfl

@[simp] theorem evaluatedModifiers_cons_modifier (m : Modifier) (rest : List Term) :
    evaluatedModifiers (.modifier m :: rest) =
      if m.isEvaluated then m :: evaluatedModifiers rest else evaluatedModifiers rest := by
  simp [evaluatedModifiers, modifier?, List.filter_cons]

@[simp] theorem directives_append (terms terms' : List Term) :
    directives (terms ++ terms') = directives terms ++ directives terms' := by simp [directives]

@[simp] theorem evaluatedModifiers_append (terms terms' : List Term) :
    evaluatedModifiers (terms ++ terms') = evaluatedModifiers terms ++ evaluatedModifiers terms' := by
  simp [evaluatedModifiers]

@[simp] theorem directives_map_directive (ds : List Directive) : directives (ds.map .directive) = ds := by
  induction ds <;> simp_all

@[simp] theorem directives_map_modifier (ms : List Modifier) : directives (ms.map .modifier) = [] := by
  induction ms <;> simp_all

@[simp] theorem evaluatedModifiers_map_directive (ds : List Directive) : evaluatedModifiers (ds.map .directive) = [] := by
  induction ds <;> simp_all

@[simp] theorem evaluatedModifiers_map_modifier (ms : List Modifier) :
    evaluatedModifiers (ms.map .modifier) = ms.filter Modifier.isEvaluated := by
  induction ms with
  | nil => rfl
  | cons m rest ih => simp [ih, List.filter_cons]

theorem directives_arranged (terms : List Term) : directives (arranged terms) = directives terms := by
  simp [arranged]

theorem evaluatedModifiers_arranged (terms : List Term) :
    evaluatedModifiers (arranged terms) = evaluatedModifiers terms := by
  simp only [arranged, evaluatedModifiers_append, evaluatedModifiers_map_directive, evaluatedModifiers_map_modifier,
    List.nil_append]
  exact List.filter_filter.trans (List.filter_congr fun m _ => Bool.and_self _)

end Term

namespace Evaluation

/-! ### What an evaluation reads of terms -/

/-- The modifiers that an evaluation knows are collected from these alone. -/
theorem collectModifiers_evaluated (domain : String) (found : Modifiers) (terms : List Term) :
    collectModifiers domain found terms =
      collectModifiers domain found ((Term.evaluatedModifiers terms).map .modifier) := by
  induction terms generalizing found with
  | nil => rfl
  | cons term rest ih =>
    cases term with
    | directive d => exact ih found
    | modifier m =>
      rw [Term.evaluatedModifiers_cons_modifier, collectModifiers]
      by_cases hr : m.isRedirect
      · simp [Modifier.isEvaluated, hr, collectModifiers, ih]
      · by_cases he : m.isExplanation
        · simp [Modifier.isEvaluated, hr, he, collectModifiers, ih]
        · simp [Modifier.isEvaluated, hr, he, ih]

/-- The directives are evaluated without looking at the modifiers between them. -/
theorem evaluateDirectives_directives (policy : PolicyEvaluation) (found : Modifiers) (domain : String) (explain : Bool)
    (terms : List Term) :
    evaluateDirectives policy found domain explain terms =
      evaluateDirectives policy found domain explain ((Term.directives terms).map .directive) := by
  induction terms with
  | nil => rfl
  | cons term rest ih =>
    cases term with
    | directive d =>
      rw [Term.directives_cons_directive, List.map_cons, evaluateDirectives, evaluateDirectives, ih]
    | modifier m => exact ih

/-- Terms with the same directives and the same known modifiers are evaluated alike. -/
theorem evaluateTerms_congr (policy : PolicyEvaluation) {terms terms' : List Term} (domain : String) (explain : Bool)
    (hd : Term.directives terms = Term.directives terms')
    (hm : Term.evaluatedModifiers terms = Term.evaluatedModifiers terms') :
    evaluateTerms policy terms domain explain = evaluateTerms policy terms' domain explain := by
  unfold evaluateTerms
  rw [collectModifiers_evaluated, hm, ← collectModifiers_evaluated]
  cases collectModifiers domain {} terms' with
  | error e => rfl
  | ok found =>
    dsimp only
    rw [evaluateDirectives_directives, hd, ← evaluateDirectives_directives]

theorem termsAt_congr (depth : Int) {terms terms' : List Term} (domain : String) (explain : Bool)
    (hd : Term.directives terms = Term.directives terms')
    (hm : Term.evaluatedModifiers terms = Term.evaluatedModifiers terms') :
    termsAt depth terms domain explain = termsAt depth terms' domain explain :=
  congrArg (read >>= ·) (funext fun _ => evaluateTerms_congr _ domain explain hd hm)

/-! ### Repeated modifiers -/

theorem countP_evaluatedModifiers {p : Modifier → Bool} (hp : ∀ m, p m = true → m.isEvaluated = true) (terms : List Term) :
    (Term.evaluatedModifiers terms).countP p = (terms.filterMap Term.modifier?).countP p := by
  rw [Term.evaluatedModifiers, List.countP_filter]
  refine List.countP_congr fun m _ => ?_
  rw [Bool.and_eq_true]
  exact and_iff_left_of_imp (hp m)

/-- A repeated redirect or explanation is noticed before anything else. -/
theorem collectModifiers_of_repeated (domain : String) {terms : List Term}
    (h : 1 < (Term.evaluatedModifiers terms).countP Modifier.isRedirect ∨
      1 < (Term.evaluatedModifiers terms).countP Modifier.isExplanation) :
    ∃ cause ∈ [SyntaxError.severalRedirects domain, .severalExplanations domain],
      collectModifiers domain {} terms = .error (.malformed cause) := by
  cases hc : collectModifiers domain {} terms with
  | ok found =>
    obtain ⟨redirects, explanations⟩ := countP_of_collectModifiers hc
    rw [countP_evaluatedModifiers fun m hm => by simp [Modifier.isEvaluated, hm],
      countP_evaluatedModifiers fun m hm => by simp [Modifier.isEvaluated, hm]] at h
    rcases h with h | h
    · exact absurd h (by omega)
    · exact absurd h (by omega)
  | error e =>
    rcases collectModifiers_several hc with rfl | rfl
    · exact ⟨_, List.mem_cons_self, rfl⟩
    · exact ⟨_, List.mem_cons_of_mem _ List.mem_cons_self, rfl⟩

/-! ### Evaluations that run alike -/

section
variable (answer : Question → σ → Answer × σ) (context : Context)

/-- Two evaluations come to the same from a world, and ask the same on the way. -/
structure RunsAlike (e e' : Evaluation α) (w : World σ) : Prop where
  exec : exec answer context e w = Evaluation.exec answer context e' w
  transcript : transcript answer context e w = Evaluation.transcript answer context e' w

/-- The test of a directive at a depth. -/
def testAt (depth : Int) (domain : String) (d : Directive) : Evaluation Bool := do
  let limits := (← read).receiver.limits
  matchesClient (policyOf (levelsFrom limits (depth + 1)) · false) d domain

/-- Directives are tested one after the other, and none of them matches. -/
inductive NoneMatches (depth : Int) (domain : String) : List Directive → World σ → World σ → Prop
  | nil (w : World σ) : NoneMatches depth domain [] w w
  | cons {d : Directive} {rest : List Directive} {w w₁ w' : World σ}
      (h : exec answer context (testAt depth domain d) w = (.ok false, w₁)) (hr : NoneMatches depth domain rest w₁ w') :
      NoneMatches depth domain (d :: rest) w w'

end

section
variable {answer : Question → σ → Answer × σ} {context : Context}

/-- Evaluations that begin alike run alike if they go on alike from wherever the beginning leads. -/
theorem RunsAlike.bind (e : Evaluation α) {f g : α → Evaluation β} {w : World σ}
    (h : ∀ a w', Evaluation.exec answer context e w = (.ok a, w') → RunsAlike answer context (f a) (g a) w') :
    RunsAlike answer context (e >>= f) (e >>= g) w := by
  refine ⟨?_, ?_⟩
  · rw [exec_bind, exec_bind]
    rcases he : Evaluation.exec answer context e w with ⟨x | a, w'⟩
    · rfl
    · exact (h a w' he).exec
  · rw [transcript_bind, transcript_bind]
    rcases he : Evaluation.exec answer context e w with ⟨x | a, w'⟩
    · rfl
    · exact congrArg _ (h a w' he).transcript

/-- The directives behind the first one that matches or fails are not looked at. -/
theorem evaluateDirectives_runsAlike {depth : Int} {found : Modifiers} {domain : String} {explain : Bool}
    {before : List Directive} {d : Directive} {w w' : World σ}
    (hb : NoneMatches answer context depth domain before w w')
    (hd : (Evaluation.exec answer context (testAt depth domain d) w').1 ≠ .ok false) (after after' : List Directive) :
    let policy := policyOf (levelsFrom context.receiver.limits (depth + 1))
    RunsAlike answer context
      (evaluateDirectives policy found domain explain ((before ++ d :: after).map .directive))
      (evaluateDirectives policy found domain explain ((before ++ d :: after').map .directive)) w := by
  intro policy
  induction hb with
  | nil w =>
    refine .bind _ fun matched w₁ ht => ?_
    cases matched with
    | true => exact ⟨rfl, rfl⟩
    | false => exact absurd (congrArg Prod.fst ht) hd
  | cons h _ ih =>
    refine .bind _ fun matched w₁ ht => ?_
    -- the test of the first directive is known to come to no match
    cases ht.symm.trans h
    exact ih hd

theorem evaluateTerms_runsAlike {depth : Int} {domain : String} (explain : Bool) {terms terms' : List Term}
    {before after after' : List Directive} {d : Directive} {w w' : World σ}
    (hb : NoneMatches answer context depth domain before w w')
    (hd : (Evaluation.exec answer context (testAt depth domain d) w').1 ≠ .ok false)
    (ht : Term.directives terms = before ++ d :: after) (ht' : Term.directives terms' = before ++ d :: after')
    (hm : Term.evaluatedModifiers terms' = Term.evaluatedModifiers terms) :
    let policy := policyOf (levelsFrom context.receiver.limits (depth + 1))
    RunsAlike answer context (evaluateTerms policy terms domain explain) (evaluateTerms policy terms' domain explain) w := by
  intro policy
  unfold evaluateTerms
  rw [collectModifiers_evaluated domain {} terms', hm, ← collectModifiers_evaluated]
  cases collectModifiers domain {} terms with
  | error e => exact ⟨rfl, rfl⟩
  | ok found =>
    dsimp only
    rw [evaluateDirectives_directives, evaluateDirectives_directives policy found domain explain terms', ht, ht']
    exact evaluateDirectives_runsAlike hb hd after after'

end

/-! ### Terms at a depth -/

/-- Terms come to the same as their directives followed by their redirects and explanations, with the same questions
and counts. If there are two redirects or two explanations that is an error without any question or count. Otherwise
the directives behind the first one that matches or fails may be replaced by any others. -/
theorem termsAt_arranged (answer : Question → σ → Answer × σ) (context : Context) (depth : Int) (terms : List Term)
    (domain : String) (explain : Bool) (w : World σ) :
    termsAt depth terms domain explain = termsAt depth (Term.arranged terms) domain explain ∧
    (∀ terms', Term.directives terms' = Term.directives terms →
      Term.evaluatedModifiers terms' = Term.evaluatedModifiers terms →
        termsAt depth terms' domain explain = termsAt depth terms domain explain) ∧
    (1 < (Term.evaluatedModifiers terms).countP Modifier.isRedirect ∨
        1 < (Term.evaluatedModifiers terms).countP Modifier.isExplanation →
      ∃ cause ∈ [SyntaxError.severalRedirects domain, .severalExplanations domain],
        exec answer context (termsAt depth terms domain explain) w = (.error (.malformed cause), w) ∧
          transcript answer context (termsAt depth terms domain explain) w = []) ∧
    ∀ before d after w', Term.directives terms = before ++ d :: after →
      NoneMatches answer context depth domain before w w' →
      (exec answer context (testAt depth domain d) w').1 ≠ .ok false →
        ∀ terms' after', Term.directives terms' = before ++ d :: after' →
          Term.evaluatedModifiers terms' = Term.evaluatedModifiers terms →
            RunsAlike answer context (termsAt depth terms domain explain) (termsAt depth terms' domain explain) w := by
  refine ⟨?_, fun terms' hd hm => termsAt_congr depth domain explain hd hm, fun repeated => ?_, ?_⟩
  · exact termsAt_congr depth domain explain (Term.directives_arranged terms).symm
      (Term.evaluatedModifiers_arranged terms).symm
  · obtain ⟨cause, hc, several⟩ := collectModifiers_of_repeated domain repeated
    have thrown : termsAt depth terms domain explain = read >>= fun _ => throwPolicy (.malformed cause) := by
      unfold termsAt evaluateTerms
      rw [several]
    refine ⟨cause, hc, ?_, ?_⟩
    · rw [thrown]
      rfl
    · rw [thrown]
      rfl
  · intro before d after w' ht hb hd terms' after' ht' hm
    have alike := evaluateTerms_runsAlike explain hb hd ht ht' hm
    exact ⟨alike.exec, alike.transcript⟩

/-- Terms with an unknown modifier in front, and an include behind the directive that matches every client. -/
def mixedTerms : List Term :=
  [.modifier ⟨"unknown", "x", "unknown=x"⟩, .directive ⟨.plus, .a, .colon, "gone.example.com", "a:gone.example.com"⟩,
   .modifier ⟨"redirect", "next.example.com", "redirect=next.example.com"⟩,
   .directive ⟨.tilde, .all, .absent, "", "~all"⟩,
   .directive ⟨.plus, .incl, .colon, "next.example.com", "include:next.example.com"⟩]

theorem termsAt_mixedTerms :
    ∃ context, Context.ofText { clock := .whole 0 } "192.0.2.5" "user@example.com" "" = .ok context ∧
      RunsAlike (Client.ofZone missingHostZone).answers context (termsAt 0 mixedTerms "example.com" true)
        (termsAt 0 (mixedTerms.take 4) "example.com" true) (.fresh .unasked) ∧
      ∃ cause, exec (Client.ofZone missingHostZone).answers context
        (termsAt 0 (mixedTerms ++ mixedTerms) "example.com" true) (.fresh .unasked) =
          (.error (.malformed cause), .fresh .unasked) := by
  obtain ⟨context, hc⟩ : ∃ context, Context.ofText { clock := .whole 0 } "192.0.2.5" "user@example.com" "" = .ok context :=
    ⟨_, rfl⟩
  have missed : (exec (Client.ofZone missingHostZone).answers context
      (testAt 0 "example.com" ⟨.plus, .a, .colon, "gone.example.com", "a:gone.example.com"⟩) (.fresh .unasked)).1 =
      .ok false := by
    cases hc
    decide
  obtain ⟨-, -, -, replaced⟩ := termsAt_arranged (Client.ofZone missingHostZone).answers context 0 mixedTerms
    "example.com" true (.fresh .unasked)
  obtain ⟨-, -, repeated, -⟩ := termsAt_arranged (Client.ofZone missingHostZone).answers context 0
    (mixedTerms ++ mixedTerms) "example.com" true (.fresh .unasked)
  refine ⟨context, hc, ?_, ?_⟩
  · exact replaced _ _ _ _ rfl (.cons (Prod.ext missed rfl) (.nil _)) nofun _ [] rfl rfl
  · obtain ⟨cause, -, ran, -⟩ := repeated (.inl (by decide))
    exact ⟨cause, ran⟩

end Evaluation

end SenderPolicy
