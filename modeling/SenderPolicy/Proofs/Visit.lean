import Mathlib.Control.Monad.Basic
import Mathlib.Logic.Relation
import SenderPolicy.Dns.Zone
import SenderPolicy.Proofs.Execution

/-! Visits: the evaluations of policies in one run. A visit finds the record of its domain, reads its terms
and searches them for a directive that matches; an include of the search, or a redirect behind it, leads to
the next visit. `ends_exec` says all that may come of a visit; `settles_of_exec` tells it from a verdict and
`fails_of_exec` from a failure, and the theorems on these are read off them. -/

namespace SenderPolicy

open Dns Evaluation Relation

variable {σ α : Type}

/-! ### The record of a domain -/

namespace Evaluation

/-- The terms of the record of a domain. -/
def policyTerms (domain : String) : Evaluation (List Term) := do
  if !Domain.isValid domain then throwPolicy (.noPolicy (.invalidDomain domain))
  match ← ofInquiry (Record.query .policy (← read).receiver.strict domain).run with
  | .error e => throwPolicy e
  | .ok record => ofExcept (Record.read domain Record.defaultMarker record)

theorem policyOf_succ (levels : Nat) (domain : String) (explain : Bool) :
    policyOf (levels + 1) domain explain = (do
      let terms ← policyTerms domain
      if terms.isEmpty then pure ⟨.neutral, "No policies specified"⟩
      else evaluateTerms (policyOf levels) terms domain explain) := by
  show evaluatePolicy (policyOf levels) domain explain = _
  unfold evaluatePolicy policyTerms
  cases Domain.isValid domain with
  | false => rfl
  | true =>
    simp only [Bool.not_true, Bool.false_eq_true, ↓reduceIte, bind_assoc]
    refine congrArg _ (funext fun context => congrArg _ (funext fun r => ?_))
    cases r <;> rfl

/-- The name to which a term leads, after a lookup has been counted for it. -/
def countedTarget (domain spec : String) : Evaluation String := do
  countLookup
  targetName domain spec

end Evaluation

/-- The question for the records of a domain among which its policy is. -/
def Record.question (domain : String) : Question := ⟨Domain.normalized domain, .txt, .policy⟩

section
variable {answer : Question → σ → Answer × σ} {context : Context}

/-- What a lookup makes of an answer. -/
def Dns.foundRecords : Answer → Except LookupError (List String)
  | .ok records => .ok records
  | .error .noAnswer => .ok []
  | .error e => .error (.ofResolver e)

theorem run_records (q : Question) (s : σ) :
    (records q).run.run answer s = (foundRecords (answer q s).1, (answer q s).2) := by
  show ((Inquiry.question q).bind _).run answer s = _
  rw [Inquiry.run_bind]
  show (Inquiry.run answer (match (answer q s).1 with | .ok records => _ | .error .noAnswer => _ | .error e => _) _) = _
  rcases (answer q s).1 with e | found
  · cases e <;> rfl
  · rfl

theorem run_query (strict : Bool) (domain : String) (s : σ) :
    (Record.query .policy strict domain).run.run answer s =
      (match foundRecords (answer (Record.question domain) s).1 with
        | .error e => .error (Record.lookupFailure (Domain.normalized domain) strict e)
        | .ok found => Record.select (Domain.normalized domain) found,
      (answer (Record.question domain) s).2) := by
  show ((texts .policy (Domain.normalized domain)).run.bind _).run answer s = _
  rw [Inquiry.run_bind, show texts .policy (Domain.normalized domain) = records (Record.question domain) from rfl,
    run_records]
  cases foundRecords (answer (Record.question domain) s).1 <;> rfl

theorem select_ok_iff {domain record : String} {texts : List String} :
    Record.select domain texts = .ok record ↔ texts.filter Record.isPolicy = [record] := by
  unfold Record.select
  rcases texts.filter Record.isPolicy with _ | ⟨first, _ | ⟨second, rest⟩⟩ <;> simp

/-- What is read from the answer to the question for the records of a domain. -/
def Record.readFound (strict : Bool) (domain : String) (reply : Answer) : Except Failure (List Term) :=
  match foundRecords reply with
  | .error e => .error (.policy (lookupFailure (Domain.normalized domain) strict e))
  | .ok texts => match select (Domain.normalized domain) texts with
    | .error e => .error (.policy e)
    | .ok record => read domain defaultMarker record

theorem exec_policyTerms (domain : String) (w : World σ) :
    exec answer context (policyTerms domain) w =
      if Domain.isValid domain then
        (Record.readFound context.receiver.strict domain (answer (Record.question domain) w.state).1,
          ⟨w.counters, (answer (Record.question domain) w.state).2⟩)
      else (.error (.policy (.noPolicy (.invalidDomain domain))), w) := by
  unfold policyTerms
  cases hv : Domain.isValid domain with
  | false => rfl
  | true =>
    simp only [Bool.not_true, Bool.false_eq_true, ↓reduceIte, exec_read_bind]
    rw [exec_bind, exec_ofInquiry, run_query]
    unfold Record.readFound
    rcases foundRecords (answer (Record.question domain) w.state).1 with e | texts
    · rfl
    · dsimp only
      rcases Record.select (Domain.normalized domain) texts with e | record
      · rfl
      · exact exec_ofExcept ..

theorem readFound_ok_iff {strict : Bool} {domain : String} {reply : Answer} {terms : List Term} :
    Record.readFound strict domain reply = .ok terms ↔
      ∃ texts record, reply = .ok texts ∧ texts.filter Record.isPolicy = [record] ∧
        Record.read domain Record.defaultMarker record = .ok terms := by
  rcases reply with e | texts
  · have none : Record.select (Domain.normalized domain) [] = .error (.noPolicy .recordMissing) := rfl
    cases e <;> simp [Record.readFound, foundRecords, none]
  · cases h : Record.select (Domain.normalized domain) texts with
    | error e =>
      have unselected : ∀ record, texts.filter Record.isPolicy ≠ [record] := fun record hf => by
        rw [select_ok_iff.mpr hf] at h
        cases h
      simp [Record.readFound, foundRecords, h, unselected]
    | ok record => simp [Record.readFound, foundRecords, h, select_ok_iff.mp h]

theorem exec_policyTerms_ok_iff {domain : String} {w w' : World σ} {terms : List Term} :
    exec answer context (policyTerms domain) w = (.ok terms, w') ↔
      Domain.isValid domain = true ∧
        Record.readFound context.receiver.strict domain (answer (Record.question domain) w.state).1 = .ok terms ∧
        w' = ⟨w.counters, (answer (Record.question domain) w.state).2⟩ := by
  rw [exec_policyTerms]
  cases Domain.isValid domain with
  | false => simp
  | true => simp [Prod.ext_iff, eq_comm (a := w')]

/-- What the entry to a policy makes of its outcome. -/
def Evaluation.entered (reference : Reference) (target : String) : Except Failure Verdict → Except Failure Verdict
  | .error (.policy (.noPolicy cause)) => .error (.policy (.missingPolicy reference target cause))
  | r => r

theorem entered_eq_iff {reference : Reference} {target : String} {r r' : Except Failure Verdict}
    (h : ∀ e, r' ≠ .error (.policy e)) : entered reference target r = r' ↔ r = r' := by
  rcases r with (e | f) | verdict
  · cases e <;> simp [entered, (h _).symm]
  · simp [entered]
  · simp [entered]

/-- A failure is told otherwise behind an entry to a policy, but it stays one. -/
theorem entered_error (reference : Reference) (target : String) (x : Failure) :
    ∃ y, entered reference target (.error x) = .error y := by
  rcases x with e | f
  · cases e <;> exact ⟨_, rfl⟩
  · exact ⟨_, rfl⟩

theorem exec_entering (reference : Reference) (target : String) (policy : Evaluation Verdict) (w : World σ) :
    exec answer context (entering reference target policy) w =
      (entered reference target (exec answer context policy w).1, (exec answer context policy w).2) := by
  unfold entering
  rw [exec_tryCatch]
  rcases exec answer context policy w with ⟨(e | e) | verdict, w'⟩
  · cases e <;> rfl
  · rfl
  · rfl

theorem exec_entering_ok_iff {reference : Reference} {target : String} {policy : Evaluation Verdict}
    {w w' : World σ} {verdict : Verdict} :
    exec answer context (entering reference target policy) w = (.ok verdict, w') ↔
      exec answer context policy w = (.ok verdict, w') := by
  rw [exec_entering, Prod.ext_iff, Prod.ext_iff]
  exact and_congr_left' (entered_eq_iff fun _ => nofun)

theorem exec_entering_fault_iff {reference : Reference} {target : String} {policy : Evaluation Verdict}
    {w w' : World σ} {f : Fault} :
    exec answer context (entering reference target policy) w = (.error (.fault f), w') ↔
      exec answer context policy w = (.error (.fault f), w') := by
  rw [exec_entering, Prod.ext_iff, Prod.ext_iff]
  exact and_congr_left' (entered_eq_iff fun _ => nofun)

end

/-! ### The modifiers of a record -/

theorem Modifier.not_isExplanation_of_isRedirect {m : Modifier} (h : m.isRedirect = true) : m.isExplanation = false := by
  unfold isRedirect at h
  unfold isExplanation
  rw [beq_iff_eq.mp h]
  decide

section
variable {domain : String} {found all : Modifiers} {terms : List Term}

/-- Collecting adds the modifiers of each kind to what has been found before, which has to leave at most one. -/
theorem collectModifiers_ok (h : collectModifiers domain found terms = .ok all) :
    all.redirect.toList = found.redirect.toList ++ (terms.filterMap Term.modifier?).filter Modifier.isRedirect ∧
      all.exp.toList = found.exp.toList ++ (terms.filterMap Term.modifier?).filter Modifier.isExplanation := by
  fun_induction collectModifiers domain found terms with
  | case1 found =>
    cases h
    simp
  | case2 found d rest ih => exact ih h
  | case3 | case5 => cases h
  | case4 found m rest hr none ih =>
    have other := Modifier.not_isExplanation_of_isRedirect hr
    have nothing : found.redirect = .none := by simpa using none
    simpa [Term.modifier?, hr, other, nothing] using ih h
  | case6 found m rest hr he none ih =>
    have nothing : found.exp = .none := by simpa using none
    simpa [Term.modifier?, hr, he, nothing] using ih h
  | case7 found m rest hr he ih => simpa [Term.modifier?, hr, he] using ih h

/-- Modifiers that cannot be collected are too many of one kind. -/
theorem collectModifiers_several {e : PolicyError} (h : collectModifiers domain found terms = .error e) :
    e = .malformed (.severalRedirects domain) ∨ e = .malformed (.severalExplanations domain) := by
  fun_induction collectModifiers domain found terms with
  | case1 => cases h
  | case2 _ _ _ ih => exact ih h
  | case3 => exact .inl (Except.error.inj h).symm
  | case4 _ _ _ _ _ ih => exact ih h
  | case5 => exact .inr (Except.error.inj h).symm
  | case6 _ _ _ _ _ _ ih => exact ih h
  | case7 _ _ _ _ _ ih => exact ih h

theorem toList_of_collectModifiers (h : collectModifiers domain {} terms = .ok all) :
    all.redirect.toList = (terms.filterMap Term.modifier?).filter Modifier.isRedirect ∧
      all.exp.toList = (terms.filterMap Term.modifier?).filter Modifier.isExplanation :=
  collectModifiers_ok h

theorem mem_of_collectModifiers (h : collectModifiers domain {} terms = .ok all) {m : Modifier} :
    (all.redirect = some m → .modifier m ∈ terms ∧ m.isRedirect = true) ∧
      (all.exp = some m → .modifier m ∈ terms ∧ m.isExplanation = true) := by
  obtain ⟨redirect, exp⟩ := toList_of_collectModifiers h
  have collected {p : Modifier → Bool} (hm : m ∈ (terms.filterMap Term.modifier?).filter p) :
      Term.modifier m ∈ terms ∧ p m = true := by
    obtain ⟨mem, hp⟩ := List.mem_filter.mp hm
    obtain ⟨term, ht, same⟩ := List.mem_filterMap.mp mem
    cases term with
    | directive d => cases same
    | modifier m' =>
      cases same
      exact ⟨ht, hp⟩
  constructor
  · intro hm
    rw [hm] at redirect
    exact collected (redirect ▸ List.mem_cons_self)
  · intro hm
    rw [hm] at exp
    exact collected (exp ▸ List.mem_cons_self)

/-- Terms from which modifiers can be collected hold each kind at most once. -/
theorem countP_of_collectModifiers (h : collectModifiers domain {} terms = .ok all) :
    (terms.filterMap Term.modifier?).countP Modifier.isRedirect ≤ 1 ∧
      (terms.filterMap Term.modifier?).countP Modifier.isExplanation ≤ 1 := by
  obtain ⟨redirect, exp⟩ := toList_of_collectModifiers h
  rw [List.countP_eq_length_filter, List.countP_eq_length_filter]
  exact ⟨redirect ▸ Option.length_toList_le, exp ▸ Option.length_toList_le⟩

end

/-! ### Visits -/

/-- The evaluation of one policy in a run: the levels that are left, the domain, whether a failure is
explained, and the world in which it begins. -/
structure Visit (σ : Type) where
  levels : Nat
  domain : String
  explain : Bool
  world : World σ

namespace Visit

/-- The first visit of a check. -/
def first (context : Context) (domain : String) (s : σ) : Visit σ :=
  ⟨levelsFrom context.receiver.limits 0, domain, true, .fresh s⟩

section
variable (answer : Question → σ → Answer × σ) (context : Context) (v : Visit σ)

/-- What comes of a visit, and the world behind it. -/
def exec : Except Failure Verdict × World σ :=
  Evaluation.exec answer context (policyOf v.levels v.domain v.explain) v.world

/-- The test of a directive in a visit. -/
def test (d : Directive) : Evaluation Bool := matchesClient (policyOf (v.levels - 1) · false) d v.domain

/-- The test of a directive comes to an answer. -/
def Tests (d : Directive) (w : World σ) (matched : Bool) (w' : World σ) : Prop :=
  Evaluation.exec answer context (v.test d) w = (.ok matched, w')

/-- The record of the domain is found and reads as terms. -/
def Opens (terms : List Term) (w : World σ) : Prop :=
  0 < v.levels ∧ Evaluation.exec answer context (policyTerms v.domain) v.world = (.ok terms, w)

/-- A step of the search for a match: over a modifier, or over a directive that does not match. -/
inductive PassesOver : List Term × World σ → List Term × World σ → Prop
  | modifier (m : Modifier) (rest : List Term) (w : World σ) : PassesOver (.modifier m :: rest, w) (rest, w)
  | directive {d : Directive} {rest : List Term} {w w' : World σ} (h : v.Tests answer context d w false w') :
      PassesOver (.directive d :: rest, w) (rest, w')

/-- The search of the record for a match has come to some last terms in a world, with the modifiers of the
record at hand. -/
def Searches (found : Modifiers) (rest : List Term) (w : World σ) : Prop :=
  ∃ terms w₀, v.Opens answer context terms w₀ ∧ collectModifiers v.domain {} terms = .ok found ∧
    ReflTransGen (v.PassesOver answer context) (terms, w₀) (rest, w)

/-- A directive for which the search has come to a world includes the policy of another visit. -/
def Includes (d : Directive) (w : World σ) (v' : Visit σ) : Prop :=
  d.mechanism = .incl ∧ ∃ target w', Evaluation.exec answer context (countedTarget v.domain d.value) w = (.ok target, w') ∧
    v' = ⟨v.levels - 1, target, false, w'⟩

/-- No directive matches, and the redirect of the record leads to another visit. -/
def Redirects (v' : Visit σ) : Prop :=
  ∃ found m w target w', v.Searches answer context found [] w ∧ found.redirect = some m ∧
    Evaluation.exec answer context (countedTarget v.domain m.macroString) w = (.ok target, w') ∧
    v' = ⟨v.levels - 1, target, v.explain, w'⟩

/-- A visit leads to another one by an include that its search comes to, or by its redirect. -/
def Enters (v' : Visit σ) : Prop :=
  (∃ found d rest w, v.Searches answer context found (.directive d :: rest) w ∧ v.Includes answer context d w v') ∨
    v.Redirects answer context v'

/-- All that may come of a visit. -/
inductive Ends : Except Failure Verdict × World σ → Prop
  | tooDeep (h : v.levels = 0) :
      Ends (.error (.policy (.tooDeep context.receiver.limits.nesting v.domain)), v.world)
  | unopened {x : Failure} {w : World σ} (h : 0 < v.levels)
      (hx : Evaluation.exec answer context (policyTerms v.domain) v.world = (.error x, w)) : Ends (.error x, w)
  | empty {w : World σ} (h : v.Opens answer context [] w) : Ends (.ok ⟨.neutral, "No policies specified"⟩, w)
  | clash {terms : List Term} {w : World σ} {e : PolicyError} (h : v.Opens answer context terms w)
      (he : collectModifiers v.domain {} terms = .error e) : Ends (.error (.policy e), w)
  | matched {found : Modifiers} {d : Directive} {rest : List Term} {w w' : World σ}
      (h : v.Searches answer context found (.directive d :: rest) w) (ht : v.Tests answer context d w true w') :
      Ends (Evaluation.exec answer context (directiveVerdict d (if v.explain then found.exp else none) v.domain) w')
  | failed {found : Modifiers} {d : Directive} {rest : List Term} {w w' : World σ} {x : Failure}
      (h : v.Searches answer context found (.directive d :: rest) w)
      (hx : Evaluation.exec answer context (v.test d) w = (.error x, w')) : Ends (.error x, w')
  | unmatched {found : Modifiers} {w : World σ} (h : v.Searches answer context found [] w) :
      Ends (Evaluation.exec answer context
        (withoutMatch (policyOf (v.levels - 1)) found.redirect v.domain v.explain) w)

end

section
variable {answer : Question → σ → Answer × σ} {context : Context} {v v' : Visit σ}

theorem Searches.step {found : Modifiers} {rest rest' : List Term} {w w' : World σ}
    (h : v.Searches answer context found rest w) (hs : v.PassesOver answer context (rest, w) (rest', w')) :
    v.Searches answer context found rest' w' := by
  obtain ⟨terms, w₀, ho, hf, hr⟩ := h
  exact ⟨terms, w₀, ho, hf, hr.tail hs⟩

theorem mem_of_passesOver {terms rest : List Term} {w w' : World σ}
    (h : ReflTransGen (v.PassesOver answer context) (terms, w) (rest, w')) : ∀ term ∈ rest, term ∈ terms := by
  generalize hx : (rest, w') = x at h
  induction h generalizing rest w' with
  | refl =>
    cases hx
    exact fun _ => id
  | tail _ hs ih =>
    cases hs with
    | modifier m rest w =>
      cases hx
      exact fun term hm => ih rfl term (List.mem_cons_of_mem _ hm)
    | directive ht =>
      cases hx
      exact fun term hm => ih rfl term (List.mem_cons_of_mem _ hm)

/-- What a search comes to are terms that a record reads as, with its modifiers. -/
theorem exists_read_of_searches {found : Modifiers} {rest : List Term} {w : World σ}
    (h : v.Searches answer context found rest w) :
    ∃ record terms, Record.read v.domain Record.defaultMarker record = .ok terms ∧
      collectModifiers v.domain {} terms = .ok found ∧ ∀ term ∈ rest, term ∈ terms := by
  obtain ⟨terms, w₀, ⟨-, ho⟩, hf, hr⟩ := h
  obtain ⟨texts, record, -, -, hread⟩ := readFound_ok_iff.mp (exec_policyTerms_ok_iff.mp ho).2.1
  exact ⟨record, terms, hread, hf, mem_of_passesOver hr⟩

/-- What holds in the world where the record is read, and is kept by each test without a match, holds wherever the
search comes to. -/
theorem Searches.keeps {P : World σ → Prop} {found : Modifiers} {rest : List Term} {w : World σ}
    (h : v.Searches answer context found rest w) (opened : ∀ terms w₀, v.Opens answer context terms w₀ → P w₀)
    (kept : ∀ d w₁ w', P w₁ → v.Tests answer context d w₁ false w' → P w') : P w := by
  obtain ⟨terms, w₀, ho, -, hr⟩ := h
  have held : ∀ x, ReflTransGen (v.PassesOver answer context) (terms, w₀) x → P x.2 := by
    intro x hx
    induction hx with
    | refl => exact opened terms w₀ ho
    | tail _ hs ih =>
      cases hs with
      | modifier => exact ih
      | directive ht => exact kept _ _ _ ih ht
  exact held _ hr

theorem ends_evaluateDirectives {found : Modifiers} : ∀ {rest : List Term} {w : World σ},
    v.Searches answer context found rest w →
      v.Ends answer context (Evaluation.exec answer context
        (evaluateDirectives (policyOf (v.levels - 1)) found v.domain v.explain rest) w)
  | [], _, h => .unmatched h
  | .modifier m :: rest, w, h => by
    have ended := ends_evaluateDirectives (h.step (.modifier m rest w))
    exact ended
  | .directive d :: rest, w, h => by
    show v.Ends answer context (Evaluation.exec answer context (v.test d >>= fun matched => _) w)
    rw [exec_bind]
    rcases ht : Evaluation.exec answer context (v.test d) w with ⟨x | matched, w'⟩
    · exact .failed h ht
    · cases matched with
      | true => exact .matched h ht
      | false => exact ends_evaluateDirectives (h.step (.directive ht))

theorem ends_exec (answer : Question → σ → Answer × σ) (context : Context) (v : Visit σ) :
    v.Ends answer context (v.exec answer context) := by
  unfold exec
  rcases hl : v.levels with _ | n
  · exact .tooDeep hl
  · have hp : 0 < v.levels := by omega
    rw [policyOf_succ, exec_bind]
    rcases ho : Evaluation.exec answer context (policyTerms v.domain) v.world with ⟨x | terms, w⟩
    · exact .unopened hp ho
    · cases terms with
      | nil => exact Ends.empty (w := w) ⟨hp, ho⟩
      | cons term rest =>
        show v.Ends answer context
          (Evaluation.exec answer context (evaluateTerms (policyOf n) (term :: rest) v.domain v.explain) w)
        unfold evaluateTerms
        cases hf : collectModifiers v.domain {} (term :: rest) with
        | error e => exact Ends.clash (w := w) ⟨hp, ho⟩ hf
        | ok found =>
          have started : v.Searches answer context found (term :: rest) w := ⟨_, w, ⟨hp, ho⟩, hf, .refl⟩
          have ended := ends_evaluateDirectives started
          rw [hl] at ended
          exact ended

/-! ### How visits hang together -/

theorem exec_of_passesOver {found : Modifiers} {rest rest' : List Term} {w w' : World σ}
    (h : ReflTransGen (v.PassesOver answer context) (rest, w) (rest', w')) :
    Evaluation.exec answer context (evaluateDirectives (policyOf (v.levels - 1)) found v.domain v.explain rest) w =
      Evaluation.exec answer context
        (evaluateDirectives (policyOf (v.levels - 1)) found v.domain v.explain rest') w' := by
  generalize hx : (rest, w) = x at h
  induction h using ReflTransGen.head_induction_on generalizing rest w with
  | refl =>
    cases hx
    rfl
  | head hs _ ih =>
    -- from the front, since a step of the search hands on what is evaluated next
    cases hs with
    | modifier m rest w =>
      cases hx
      have rested := ih rfl
      exact rested
    | directive ht =>
      cases hx
      rw [← ih rfl]
      exact exec_bind_of_ok ht

/-- A visit goes on as the rest of its search does. -/
theorem exec_of_searches {found : Modifiers} {rest : List Term} {w : World σ}
    (h : v.Searches answer context found rest w) (more : rest ≠ [] ∨ found.redirect ≠ none) :
    v.exec answer context = Evaluation.exec answer context
      (evaluateDirectives (policyOf (v.levels - 1)) found v.domain v.explain rest) w := by
  obtain ⟨terms, w₀, ⟨hp, ho⟩, hf, hr⟩ := h
  obtain ⟨n, hl⟩ : ∃ n, v.levels = n + 1 := ⟨v.levels - 1, by omega⟩
  -- a record without terms is neutral before anything is searched
  have nonempty : terms ≠ [] := by
    rintro rfl
    cases hf
    rcases hr.cases_head with h | ⟨c, h, -⟩
    · cases h
      simp at more
    · cases h
  rw [← exec_of_passesOver hr]
  unfold exec
  rw [hl, policyOf_succ, exec_bind_of_ok ho]
  obtain ⟨term, others, rfl⟩ := List.exists_cons_of_ne_nil nonempty
  show Evaluation.exec answer context (evaluateTerms (policyOf n) (term :: others) v.domain v.explain) w₀ = _
  unfold evaluateTerms
  rw [hf]
  rfl

theorem exec_of_tests {found : Modifiers} {d : Directive} {rest : List Term} {w w' : World σ}
    (h : v.Searches answer context found (.directive d :: rest) w) (ht : v.Tests answer context d w true w') :
    v.exec answer context =
      Evaluation.exec answer context (directiveVerdict d (if v.explain then found.exp else none) v.domain) w' := by
  rw [exec_of_searches h (.inl (by simp))]
  exact exec_bind_of_ok ht

theorem exec_of_test_error {found : Modifiers} {d : Directive} {rest : List Term} {w w' : World σ} {x : Failure}
    (h : v.Searches answer context found (.directive d :: rest) w)
    (hx : Evaluation.exec answer context (v.test d) w = (.error x, w')) : v.exec answer context = (.error x, w') := by
  rw [exec_of_searches h (.inl (by simp))]
  exact exec_bind_of_error hx

theorem exec_withoutMatch_some (policy : PolicyEvaluation) (m : Modifier) (domain : String) (explain : Bool)
    (w : World σ) :
    Evaluation.exec answer context (withoutMatch policy (some m) domain explain) w =
      Evaluation.exec answer context (countedTarget domain m.macroString >>= fun target =>
        entering .redirect target (policy target explain)) w := by
  unfold withoutMatch countedTarget
  rw [bind_assoc]

theorem exec_test_incl {d : Directive} (hd : d.mechanism = .incl) (w : World σ) :
    Evaluation.exec answer context (v.test d) w =
      Evaluation.exec answer context (countedTarget v.domain d.value >>= fun target =>
        (entering .incl target (policyOf (v.levels - 1) target false) >>= fun verdict =>
          pure (verdict.result == .pass))) w := by
  unfold test matchesClient countedTarget
  rw [hd, bind_assoc]
  rfl

theorem exec_test_of_includes {d : Directive} {w : World σ} (h : v.Includes answer context d w v') :
    Evaluation.exec answer context (v.test d) w =
      Evaluation.exec answer context (entering .incl v'.domain (policyOf v'.levels v'.domain v'.explain) >>= fun verdict =>
        pure (verdict.result == .pass)) v'.world := by
  obtain ⟨hd, target, w', ht, rfl⟩ := h
  rw [exec_test_incl hd]
  exact exec_bind_of_ok ht

theorem exec_of_redirects (h : v.Redirects answer context v') :
    v.exec answer context =
      Evaluation.exec answer context (entering .redirect v'.domain (policyOf v'.levels v'.domain v'.explain)) v'.world := by
  obtain ⟨found, m, w, target, w', hs, hm, ht, rfl⟩ := h
  rw [exec_of_searches hs (.inr (by simp [hm]))]
  show Evaluation.exec answer context (withoutMatch _ found.redirect v.domain v.explain) w = _
  rw [hm, exec_withoutMatch_some]
  exact exec_bind_of_ok ht

/-- An include answers by whether the visit to which it leads lets the client pass. -/
theorem tests_incl_iff {d : Directive} (hd : d.mechanism = .incl) {w w' : World σ} {matched : Bool} :
    v.Tests answer context d w matched w' ↔
      ∃ v', v.Includes answer context d w v' ∧ ∃ verdict, v'.exec answer context = (.ok verdict, w') ∧
        matched = (verdict.result == .pass) := by
  constructor
  · intro h
    unfold Tests at h
    rw [exec_test_incl hd, exec_bind_ok_iff] at h
    obtain ⟨target, w₁, ht, h⟩ := h
    obtain ⟨verdict, w₂, he, h⟩ := exec_bind_ok_iff.mp h
    cases h
    exact ⟨_, ⟨hd, target, w₁, ht, rfl⟩, verdict, exec_entering_ok_iff.mp he, rfl⟩
  · rintro ⟨v', h, verdict, he, rfl⟩
    unfold Tests
    rw [exec_test_of_includes h]
    exact exec_bind_of_ok (exec_entering_ok_iff.mpr he)

/-- All that a visit which comes to a verdict may have done: no directive matches and there is no redirect, a directive
matches, or the redirect leads to a visit that comes to this verdict. -/
inductive Settles (answer : Question → σ → Answer × σ) (context : Context) (v : Visit σ) (verdict : Verdict)
    (w : World σ) : Prop
  | byDefault {found : Modifiers} {w₁ : World σ} (h : v.Searches answer context found [] w₁) (hm : found.redirect = none)
      (hv : verdict = ⟨.neutral, "No policies specified"⟩ ∨ verdict = ⟨.neutral, "Default result"⟩) :
      Settles answer context v verdict w
  | byMatch {found : Modifiers} {d : Directive} {rest : List Term} {w₁ w₂ : World σ}
      (h : v.Searches answer context found (.directive d :: rest) w₁) (ht : v.Tests answer context d w₁ true w₂)
      (hv : Evaluation.exec answer context (directiveVerdict d (if v.explain then found.exp else none) v.domain) w₂ =
        (.ok verdict, w)) : Settles answer context v verdict w
  | byRedirect {v' : Visit σ} (h : v.Redirects answer context v') (hv : v'.exec answer context = (.ok verdict, w)) :
      Settles answer context v verdict w

theorem settles_of_exec {verdict : Verdict} {w : World σ} (h : v.exec answer context = (.ok verdict, w)) :
    v.Settles answer context verdict w := by
  obtain ⟨r, hr, ended⟩ : ∃ r, r = (.ok verdict, w) ∧ v.Ends answer context r := ⟨_, h, ends_exec ..⟩
  cases ended with
  | tooDeep | unopened | clash | failed => cases hr
  | empty ho =>
    cases hr
    exact .byDefault ⟨[], _, ho, rfl, .refl⟩ rfl (.inl rfl)
  | matched hs ht => exact .byMatch hs ht hr
  | @unmatched found w₁ hs =>
    cases hm : found.redirect with
    | none =>
      rw [hm] at hr
      cases hr
      exact .byDefault hs hm (.inr rfl)
    | some m =>
      rw [hm, exec_withoutMatch_some] at hr
      obtain ⟨target, w₂, ht, he⟩ := exec_bind_ok_iff.mp hr
      exact .byRedirect ⟨found, m, w₁, target, w₂, hs, hm, ht, rfl⟩ (exec_entering_ok_iff.mp he)

/-- All that a visit which fails may have come to: it is too deep, its record is not read, the verdict or the test of a
directive fails, the name to which an include or the redirect leads is not found, or the visit to which it leads fails. -/
inductive Fails (answer : Question → σ → Answer × σ) (context : Context) (v : Visit σ) (x : Failure) : Prop
  | tooDeep (h : v.levels = 0) (hx : x = .policy (.tooDeep context.receiver.limits.nesting v.domain))
  | unopened (h : 0 < v.levels) (hx : (Evaluation.exec answer context (policyTerms v.domain) v.world).1 = .error x)
  | clash {terms : List Term} {w : World σ} {e : PolicyError} (h : v.Opens answer context terms w)
      (he : collectModifiers v.domain {} terms = .error e) (hx : x = .policy e)
  | verdict {found : Modifiers} {d : Directive} {rest : List Term} {w w' : World σ}
      (h : v.Searches answer context found (.directive d :: rest) w) (ht : v.Tests answer context d w true w')
      (hx : (Evaluation.exec answer context
        (directiveVerdict d (if v.explain then found.exp else none) v.domain) w').1 = .error x)
  | test {found : Modifiers} {d : Directive} {rest : List Term} {w : World σ}
      (h : v.Searches answer context found (.directive d :: rest) w) (hd : d.mechanism ≠ .incl)
      (hx : (Evaluation.exec answer context (v.test d) w).1 = .error x)
  | includeTarget {found : Modifiers} {d : Directive} {rest : List Term} {w : World σ}
      (h : v.Searches answer context found (.directive d :: rest) w) (hd : d.mechanism = .incl)
      (hx : (Evaluation.exec answer context (countedTarget v.domain d.value) w).1 = .error x)
  | redirectTarget {found : Modifiers} {m : Modifier} {w : World σ} (h : v.Searches answer context found [] w)
      (hm : found.redirect = some m)
      (hx : (Evaluation.exec answer context (countedTarget v.domain m.macroString) w).1 = .error x)
  | entered {v' : Visit σ} {reference : Reference} (h : v.Enters answer context v')
      (hx : Evaluation.entered reference v'.domain (v'.exec answer context).1 = .error x)

theorem fails_of_exec {x : Failure} (h : (v.exec answer context).1 = .error x) : v.Fails answer context x := by
  have ended := ends_exec answer context v
  generalize v.exec answer context = ran at ended h
  cases ended with
  | tooDeep hl =>
    cases h
    exact .tooDeep hl rfl
  | unopened hl hx =>
    cases h
    exact .unopened hl (congrArg Prod.fst hx)
  | empty => cases h
  | clash ho he =>
    cases h
    exact .clash ho he rfl
  | matched hs ht => exact .verdict hs ht h
  | @failed found d rest w w' y hs hx =>
    cases h
    by_cases hd : d.mechanism = .incl
    · have tested := congrArg Prod.fst hx
      rw [exec_test_incl hd] at tested
      rcases exec_bind_error_iff.mp tested with hx | ⟨target, w₁, hc, hx⟩
      · exact .includeTarget hs hd hx
      · -- what is made of a verdict of the policy does not fail
        rcases exec_bind_error_iff.mp hx with hx | ⟨_, _, -, hx⟩
        · rw [exec_entering] at hx
          exact .entered (.inl ⟨found, d, rest, w, hs, hd, target, w₁, hc, rfl⟩) hx
        · cases hx
    · exact .test hs hd (congrArg Prod.fst hx)
  | @unmatched found w hs =>
    cases hm : found.redirect with
    | none =>
      rw [hm] at h
      cases h
    | some m =>
      rw [hm, exec_withoutMatch_some] at h
      rcases exec_bind_error_iff.mp h with hx | ⟨target, w₁, hc, hx⟩
      · exact .redirectTarget hs hm hx
      · rw [exec_entering] at hx
        exact .entered (.inr ⟨found, m, w, target, w₁, hs, hm, hc, rfl⟩) hx

/-- A failure of a policy ends the visit that has led to it. -/
theorem exec_error_of_enters (h : v.Enters answer context v') {x : Failure} {w : World σ}
    (hx : v'.exec answer context = (.error x, w)) :
    ∃ reference, v.exec answer context = (entered reference v'.domain (.error x), w) := by
  have ended : ∀ reference, Evaluation.exec answer context
      (entering reference v'.domain (policyOf v'.levels v'.domain v'.explain)) v'.world =
      (entered reference v'.domain (.error x), w) := fun reference => by
    rw [exec_entering, show Evaluation.exec answer context (policyOf v'.levels v'.domain v'.explain) v'.world = _ from hx]
  rcases h with ⟨found, d, rest, w₁, hs, hi⟩ | hr
  · obtain ⟨y, hy⟩ := entered_error .incl v'.domain x
    have failed : Evaluation.exec answer context (v.test d) w₁ = (.error y, w) := by
      rw [exec_test_of_includes hi]
      exact exec_bind_of_error ((ended .incl).trans (by rw [hy]))
    exact ⟨.incl, by rw [exec_of_test_error hs failed, hy]⟩
  · exact ⟨.redirect, by rw [exec_of_redirects hr, ended]⟩

/-- A visit that comes to a verdict has come to one in every visit to which it leads. -/
theorem exec_ok_of_enters (h : v.Enters answer context v') {verdict : Verdict} {w : World σ}
    (hv : v.exec answer context = (.ok verdict, w)) : ∃ verdict' w', v'.exec answer context = (.ok verdict', w') := by
  rcases he : v'.exec answer context with ⟨x | verdict', w'⟩
  · obtain ⟨reference, failed⟩ := exec_error_of_enters h he
    obtain ⟨y, hy⟩ := entered_error reference v'.domain x
    rw [failed, hy] at hv
    cases hv
  · exact ⟨verdict', w', rfl⟩

theorem levels_of_enters (h : v.Enters answer context v') : v'.levels + 1 = v.levels := by
  rcases h with ⟨_, _, _, _, ⟨_, _, ⟨hp, -⟩, -⟩, -, _, _, -, rfl⟩ | ⟨_, _, _, _, _, ⟨_, _, ⟨hp, -⟩, -⟩, -, -, rfl⟩ <;>
    exact Nat.sub_add_cancel hp

theorem Redirects.enters (h : v.Redirects answer context v') : v.Enters answer context v' := .inr h

/-- Where each visit of a kind is at an end or leads to another one of that kind, the visits that follow come to an end:
each of them has a level less. -/
theorem exists_last_of_leads {P Q : Visit σ → Prop} {R : Visit σ → Visit σ → Prop}
    (enters : ∀ {v v'}, R v v' → v.Enters answer context v') (leads : ∀ v, P v → Q v ∨ ∃ v', R v v' ∧ P v') (h : P v) :
    ∃ last, ReflTransGen R v last ∧ Q last := by
  induction hn : v.levels using Nat.strongRecOn generalizing v with
  | _ n ih =>
    rcases leads v h with hq | ⟨v', hr, h'⟩
    · exact ⟨v, .refl, hq⟩
    · have levels := levels_of_enters (enters hr)
      obtain ⟨last, hl, hq⟩ := ih v'.levels (by omega) h' rfl
      exact ⟨last, .head hr hl, hq⟩

end

end Visit

/-! ### Checks -/

/-- How a client answers questions, retries included. -/
abbrev Dns.Client.answers (client : Client) : Question → ClientState → Answer × ClientState :=
  client.answer client.options.retries.toNat

/-- A client that answers from a zone, and keeps all answers. -/
def Dns.Client.ofZone (zone : Zone) : Client := ⟨zone.resolver, .whole 0, {}, true⟩

/-- The state of a client that has not been asked anything. -/
def Dns.ClientState.unasked : ClientState := ⟨⟨200000, 1800, []⟩, []⟩

/-- The results that a policy may decide; all others say that there is no decision. -/
def Result.decisions : List Result := [.pass, .fail, .softfail, .neutral]

theorem PolicyError.result_not_decision (e : PolicyError) : e.result ∉ Result.decisions := by
  cases e <;> simp [result, Result.decisions]

section
variable {answer : Question → σ → Answer × σ} {receiver : Receiver} {ip domain sender helo : String} {s : σ}

theorem Context.check_eq_exec (context : Context) :
    (context.check domain).run answer s =
      let ran := (Visit.first context domain s).exec answer context
      (Outcome.ofResult (ran.1, ran.2.counters), ran.2.state) :=
  Context.run_check answer context domain s

theorem Context.ofText_ok {context : Context} (h : Context.ofText receiver ip sender helo = .ok context) :
    (Address.ofText? ip).isSome ∧ context.receiver = receiver := by
  unfold Context.ofText at h
  split at h
  · cases h
  · rename_i address ha
    cases h
    exact ⟨by rw [ha]; rfl, rfl⟩

theorem Context.ofText_error {f : Fault} (h : Context.ofText receiver ip sender helo = .error f) :
    (Address.ofText? ip).isSome = false := by
  unfold Context.ofText at h
  split at h
  · rename_i ha
    rw [ha]
    rfl
  · cases h

/-- A check comes to what its first visit comes to. -/
theorem run_checkHost_eq_exec {context : Context} (h : Context.ofText receiver ip sender helo = .ok context) :
    ((checkHost receiver ip domain sender helo).run answer s).1 =
      (Outcome.ofResult (((Visit.first context domain s).exec answer context).1,
        ((Visit.first context domain s).exec answer context).2.counters)).verdict := by
  rw [run_checkHost h, Context.check_eq_exec]

theorem context_of_checkHost {verdict : Verdict}
    (h : ((checkHost receiver ip domain sender helo).run answer s).1 = .ok verdict) :
    ∃ context, Context.ofText receiver ip sender helo = .ok context ∧
      ((context.check domain).run answer s).1.verdict = .ok verdict := by
  cases hc : Context.ofText receiver ip sender helo with
  | error e =>
    rw [checkHost_of_error hc] at h
    cases h
  | ok context =>
    rw [run_checkHost hc] at h
    exact ⟨context, rfl, h⟩

theorem exec_first_of_decision {context : Context} {verdict : Verdict}
    (h : ((context.check domain).run answer s).1.verdict = .ok verdict) (hd : verdict.result ∈ Result.decisions) :
    ∃ w, (Visit.first context domain s).exec answer context = (.ok verdict, w) := by
  rw [Context.check_eq_exec] at h
  rcases he : (Visit.first context domain s).exec answer context with ⟨(e | e) | v, w⟩
  · rw [he] at h
    cases h
    exact absurd hd e.result_not_decision
  · rw [he] at h
    cases h
  · rw [he] at h
    cases h
    exact ⟨w, rfl⟩

end

end SenderPolicy
