import SenderPolicy.Proofs.Itemized

/-! Strict receivers. A check does the same for a strict receiver as for one that is not, until it comes to a domain whose
records cannot be had, for a cause that is neither the lack of the domain nor temporary. The check ends there in both
cases; the error that the strict receiver calls temporary is a missing policy for the other one, which is no result for the
checked domain itself and a permanent error behind a reference. -/

namespace SenderPolicy

open Dns Evaluation Relation

variable {σ α β : Type}

/-! ### What is the same for all receivers -/

namespace Evaluation

section
variable {answer : Question → σ → Answer × σ} {context : Context} {w : World σ}

/-- The evaluation does the same for a strict receiver as for one that is not. -/
def Impartial (answer : Question → σ → Answer × σ) (context : Context) (e : Evaluation α) : Prop :=
  ∀ w, exec answer (context.withStrictness true) e w = exec answer (context.withStrictness false) e w

theorem impartial_pure (a : α) : Impartial answer context (pure a) := fun _ => rfl

theorem impartial_throw (x : Failure) : Impartial answer context (throw x : Evaluation α) := fun _ => rfl

theorem impartial_countLookup : Impartial answer context countLookup := fun w => by
  rw [exec_countLookup, exec_countLookup]
  rfl

theorem impartial_countVoidLookup : Impartial answer context countVoidLookup := fun w => by
  rw [exec_countVoidLookup, exec_countVoidLookup]
  rfl

theorem impartial_ofInquiry (i : Inquiry α) : Impartial answer context (ofInquiry i) := fun w => by
  rw [exec_ofInquiry, exec_ofInquiry]

theorem Impartial.bind {e : Evaluation α} {f : α → Evaluation β} (h : Impartial answer context e)
    (hf : ∀ a, Impartial answer context (f a)) : Impartial answer context (e >>= f) := by
  intro w
  rw [exec_bind, exec_bind, h w]
  rcases exec answer (context.withStrictness false) e w with ⟨x | a, w'⟩
  · rfl
  · exact hf a w'

theorem tallied_impartial (name : String) (r : Except LookupError (List α)) :
    Impartial answer context (tallied name r) := by
  rcases r with e | found
  · cases e with
    | noSuchDomain => exact impartial_countVoidLookup.bind fun _ => impartial_pure _
    | _ => exact impartial_throw _
  · dsimp only [tallied]
    split
    · exact impartial_countVoidLookup.bind fun _ => impartial_pure _
    · exact impartial_pure _

theorem Impartial.uncounted {e : Evaluation α} (h : Impartial answer context e) : Impartial answer context (uncounted e) :=
  fun w => by rw [exec_uncounted, exec_uncounted, h w]

theorem Impartial.excused {e : Evaluation (Option String)} (h : Impartial answer context e) :
    Impartial answer context (tryCatch e excused) := fun w => by
  rw [exec_excused, exec_excused, h w]

/-- What reads no record of a policy does the same for all receivers. -/
theorem Itemized.impartial {tests : Bool} {e : Evaluation α} (h : Itemized false tests e) : Impartial answer context e := by
  generalize hr : false = reads at h
  induction h generalizing answer with
  | pure a => exact impartial_pure a
  | throw x => exact impartial_throw x
  | reading h _ ih =>
    intro w
    rw [exec_read_bind, exec_read_bind, h, h]
    exact ih context hr w
  | countLookup => exact impartial_countLookup
  | ask => exact impartial_ofInquiry _
  | addresses host => exact (impartial_ofInquiry _).bind fun r => tallied_impartial host _
  | mailHosts target => exact (impartial_ofInquiry _).bind fun r => tallied_impartial target _
  | terms => cases hr
  | bind _ _ ih ihf => exact (ih hr).bind fun a => ihf a hr
  | entering => cases hr
  | explaining m domain _ _ ih ihf =>
    intro w
    rw [explanation_eq, exec_askedFor, exec_askedFor]
    exact ((ih rfl).uncounted.bind fun target => ihf target rfl).excused w

end

end Evaluation

/-! ### Unsettled visits -/

/-- The records of the domain of a visit cannot be had, for a cause that is neither the lack of the domain nor temporary. -/
structure Visit.Unsettled (answer : Question → σ → Answer × σ) (v : Visit σ) (cause : ResolverError) : Prop where
  levels : 0 < v.levels
  valid : Domain.isValid v.domain = true
  failed : foundRecords (answer (Record.question v.domain) v.world.state).1 = .error (.resolver cause)

/-- Only if the records of a domain cannot be had for such a cause does it make a difference whether the receiver is
strict. -/
theorem Record.readFound_eq_or (domain : String) (reply : Answer) :
    readFound true domain reply = readFound false domain reply ∨
      ∃ cause, foundRecords reply = .error (.resolver cause) ∧
        readFound true domain reply = .error (.policy (.temporary (Domain.normalized domain) (.resolver cause))) ∧
        readFound false domain reply = .error (.policy (.noPolicy (.lookup (.resolver cause)))) := by
  rcases reply with e | texts
  · cases e with
    | noSuchName | noAnswer | noNameservers | lifetimeExpired | timedOut => exact .inl rfl
    | failed | badTimeout => exact .inr ⟨_, rfl, rfl, rfl⟩
  · exact .inl rfl

/-- Two runs in a visit, for a receiver that is not strict and for a strict one, part at an unsettled visit: the visit
itself, or one that it leads to. -/
structure Visit.PartAt (answer : Question → σ → Answer × σ) (context : Context) (v v' : Visit σ) (cause : ResolverError)
    (lenient strict : Except Failure α × World σ) : Prop where
  unsettled : v'.Unsettled answer cause
  world : strict.2 = lenient.2
  strict : strict.1 = .error (.policy (.temporary (Domain.normalized v'.domain) (.resolver cause)))
  lenient : v' = v ∧ lenient.1 = .error (.policy (.noPolicy (.lookup (.resolver cause)))) ∨
    TransGen (Enters answer (context.withStrictness false)) v v' ∧ ∃ reference,
      lenient.1 = .error (.policy (.missingPolicy reference v'.domain (.lookup (.resolver cause))))

/-- Two runs in a visit, for a receiver that is not strict and for a strict one, are the same or part at an unsettled
visit. -/
def Visit.SameOrPart (answer : Question → σ → Answer × σ) (context : Context) (v : Visit σ)
    (lenient strict : Except Failure α × World σ) : Prop :=
  strict = lenient ∨ ∃ v' cause, v.PartAt answer context v' cause lenient strict

namespace Visit

section
variable {answer : Question → σ → Answer × σ} {context : Context} {v v₁ v' : Visit σ} {cause : ResolverError} {w : World σ}

theorem PartAt.bind {e : Evaluation α} {f : α → Evaluation β}
    (h : v.PartAt answer context v' cause (Evaluation.exec answer (context.withStrictness false) e w)
      (Evaluation.exec answer (context.withStrictness true) e w)) :
    v.PartAt answer context v' cause (Evaluation.exec answer (context.withStrictness false) (e >>= f) w)
      (Evaluation.exec answer (context.withStrictness true) (e >>= f) w) := by
  obtain ⟨unsettled, world, strict, lenient⟩ := h
  rw [exec_bind, exec_bind]
  generalize Evaluation.exec answer (context.withStrictness false) e w = r at world lenient
  generalize Evaluation.exec answer (context.withStrictness true) e w = r' at world strict
  obtain ⟨r, w₁⟩ := r
  obtain ⟨r', w₁'⟩ := r'
  cases strict
  rcases lenient with ⟨same, missing⟩ | ⟨behind, reference, missing⟩
  · cases missing
    exact ⟨unsettled, world, rfl, .inl ⟨same, rfl⟩⟩
  · cases missing
    exact ⟨unsettled, world, rfl, .inr ⟨behind, reference, rfl⟩⟩

/-- The entry to a visit makes a missing policy an error of the reference. -/
theorem PartAt.entering {policy : Evaluation Verdict} (he : v.Enters answer (context.withStrictness false) v₁)
    (h : v₁.PartAt answer context v' cause (Evaluation.exec answer (context.withStrictness false) policy w)
      (Evaluation.exec answer (context.withStrictness true) policy w)) (reference : Reference) :
    v.PartAt answer context v' cause
      (Evaluation.exec answer (context.withStrictness false) (entering reference v₁.domain policy) w)
      (Evaluation.exec answer (context.withStrictness true) (entering reference v₁.domain policy) w) := by
  obtain ⟨unsettled, world, strict, lenient⟩ := h
  rw [exec_entering, exec_entering, strict]
  refine ⟨unsettled, world, rfl, .inr ?_⟩
  rcases lenient with ⟨rfl, missing⟩ | ⟨behind, reference', missing⟩ <;> rw [missing]
  · exact ⟨.single he, reference, rfl⟩
  · exact ⟨.head he behind, reference', rfl⟩

theorem SameOrPart.bind {e : Evaluation α} {f : α → Evaluation β}
    (h : v.SameOrPart answer context (Evaluation.exec answer (context.withStrictness false) e w)
      (Evaluation.exec answer (context.withStrictness true) e w))
    (hf : ∀ a w', Evaluation.exec answer (context.withStrictness false) e w = (.ok a, w') →
      v.SameOrPart answer context (Evaluation.exec answer (context.withStrictness false) (f a) w')
        (Evaluation.exec answer (context.withStrictness true) (f a) w')) :
    v.SameOrPart answer context (Evaluation.exec answer (context.withStrictness false) (e >>= f) w)
      (Evaluation.exec answer (context.withStrictness true) (e >>= f) w) := by
  rcases h with same | ⟨v', cause, parted⟩
  · rw [exec_bind, exec_bind, same]
    rcases hr : Evaluation.exec answer (context.withStrictness false) e w with ⟨x | a, w'⟩
    · exact .inl rfl
    · exact hf a w' hr
  · exact .inr ⟨v', cause, parted.bind⟩

theorem SameOrPart.entering (he : v.Enters answer (context.withStrictness false) v₁)
    (h : v₁.SameOrPart answer context (v₁.exec answer (context.withStrictness false))
      (v₁.exec answer (context.withStrictness true))) (reference : Reference) :
    v.SameOrPart answer context
      (Evaluation.exec answer (context.withStrictness false)
        (Evaluation.entering reference v₁.domain (policyOf v₁.levels v₁.domain v₁.explain)) v₁.world)
      (Evaluation.exec answer (context.withStrictness true)
        (Evaluation.entering reference v₁.domain (policyOf v₁.levels v₁.domain v₁.explain)) v₁.world) := by
  unfold exec at h
  rcases h with same | ⟨v', cause, parted⟩
  · exact .inl (by rw [exec_entering, exec_entering, same])
  · exact .inr ⟨v', cause, parted.entering he reference⟩

/-- The search for the record of a visit is the first place where runs may part. -/
theorem policyTerms_sameOrPart (hl : 0 < v.levels) :
    v.SameOrPart answer context (Evaluation.exec answer (context.withStrictness false) (policyTerms v.domain) v.world)
      (Evaluation.exec answer (context.withStrictness true) (policyTerms v.domain) v.world) := by
  rw [exec_policyTerms, exec_policyTerms]
  by_cases hv : Domain.isValid v.domain = true
  · rw [if_pos hv, if_pos hv]
    rcases Record.readFound_eq_or v.domain (answer (Record.question v.domain) v.world.state).1 with
      same | ⟨cause, failed, strict, lenient⟩
    · exact .inl (congrArg (·, _) same)
    · exact .inr ⟨v, cause, ⟨hl, hv, failed⟩, rfl, strict, .inl ⟨rfl, lenient⟩⟩
  · rw [if_neg hv, if_neg hv]
    exact .inl rfl

section
variable (ih : ∀ v₁, v.Enters answer (context.withStrictness false) v₁ →
  v₁.SameOrPart answer context (v₁.exec answer (context.withStrictness false)) (v₁.exec answer (context.withStrictness true)))
include ih

/-- A directive may part the runs only by the visit that it includes. -/
theorem test_sameOrPart {found : Modifiers} {d : Directive} {rest : List Term}
    (h : v.Searches answer (context.withStrictness false) found (.directive d :: rest) w) :
    v.SameOrPart answer context (Evaluation.exec answer (context.withStrictness false) (v.test d) w)
      (Evaluation.exec answer (context.withStrictness true) (v.test d) w) := by
  by_cases hd : d.mechanism = .incl
  · rw [exec_test_incl hd, exec_test_incl hd]
    refine .bind (.inl ((@countedTarget_itemized false true v.domain d.value).impartial w)) fun target w' ht => ?_
    have entered : v.Enters answer (context.withStrictness false) ⟨v.levels - 1, target, false, w'⟩ :=
      .inl ⟨found, d, rest, w, h, hd, target, w', ht, rfl⟩
    exact .bind (.entering entered (ih _ entered) .incl) fun _ _ _ => .inl rfl
  · exact .inl ((@matchesClient_itemized_of_ne false true _ _ hd (fun _ => rfl) v.domain).impartial w)

theorem withoutMatch_sameOrPart {found : Modifiers} (h : v.Searches answer (context.withStrictness false) found [] w) :
    v.SameOrPart answer context
      (Evaluation.exec answer (context.withStrictness false)
        (withoutMatch (policyOf (v.levels - 1)) found.redirect v.domain v.explain) w)
      (Evaluation.exec answer (context.withStrictness true)
        (withoutMatch (policyOf (v.levels - 1)) found.redirect v.domain v.explain) w) := by
  cases hm : found.redirect with
  | none => exact .inl rfl
  | some m =>
    rw [exec_withoutMatch_some, exec_withoutMatch_some]
    refine .bind (.inl ((@countedTarget_itemized false true v.domain m.macroString).impartial w)) fun target w' ht => ?_
    have entered : v.Enters answer (context.withStrictness false) ⟨v.levels - 1, target, v.explain, w'⟩ :=
      .inr ⟨found, m, w, target, w', h, hm, ht, rfl⟩
    exact .entering entered (ih _ entered) .redirect

theorem evaluateDirectives_sameOrPart {found : Modifiers} : ∀ {rest : List Term} {w : World σ},
    v.Searches answer (context.withStrictness false) found rest w →
      v.SameOrPart answer context
        (Evaluation.exec answer (context.withStrictness false)
          (evaluateDirectives (policyOf (v.levels - 1)) found v.domain v.explain rest) w)
        (Evaluation.exec answer (context.withStrictness true)
          (evaluateDirectives (policyOf (v.levels - 1)) found v.domain v.explain rest) w)
  | [], _, h => withoutMatch_sameOrPart ih h
  | .modifier m :: rest, w, h => by
    have later := evaluateDirectives_sameOrPart (h.step (.modifier m rest w))
    exact later
  | .directive d :: rest, w, h => by
    refine .bind (test_sameOrPart ih h) fun matched w' ht => ?_
    cases matched with
    | true => exact .inl ((@directiveVerdict_itemized false true d _ v.domain).impartial w')
    | false => exact evaluateDirectives_sameOrPart (h.step (.directive ht))

end

/-- The runs of a visit for a receiver that is not strict and for a strict one are the same or part at an unsettled visit,
by induction on the levels that are left. -/
theorem exec_sameOrPart (answer : Question → σ → Answer × σ) (context : Context) (v : Visit σ) :
    v.SameOrPart answer context (v.exec answer (context.withStrictness false)) (v.exec answer (context.withStrictness true)) := by
  induction hn : v.levels generalizing v with
  | zero =>
    unfold exec
    rw [hn]
    exact .inl rfl
  | succ n ih =>
    have entered : ∀ v₁, v.Enters answer (context.withStrictness false) v₁ → v₁.SameOrPart answer context
        (v₁.exec answer (context.withStrictness false)) (v₁.exec answer (context.withStrictness true)) :=
      fun v₁ he => ih v₁ (Nat.succ_inj.mp ((levels_of_enters he).trans hn))
    have hl : 0 < v.levels := by omega
    unfold exec
    rw [hn, policyOf_succ]
    refine .bind (policyTerms_sameOrPart hl) fun terms w ho => ?_
    cases terms with
    | nil => exact .inl rfl
    | cons term rest =>
      simp only [List.isEmpty_cons, Bool.false_eq_true, ↓reduceIte]
      unfold evaluateTerms
      cases hf : collectModifiers v.domain {} (term :: rest) with
      | error e => exact .inl rfl
      | ok found =>
        have searched : v.SameOrPart answer context _ _ :=
          evaluateDirectives_sameOrPart entered ⟨term :: rest, w, ⟨hl, ho⟩, hf, .refl⟩
        rw [hn] at searched
        exact searched

end

end Visit

/-! ### Checks -/

section
variable {answer : Question → σ → Answer × σ} {context : Context} {v reached : Visit σ} {cause : ResolverError}
  {lenient strict : Except Failure Verdict × World σ}

theorem Visit.SameOrPart.world (h : v.SameOrPart answer context lenient strict) : strict.2 = lenient.2 := by
  rcases h with same | ⟨v', cause, parted⟩
  · rw [same]
  · exact parted.world

theorem Visit.PartAt.strict_verdict (h : v.PartAt answer context reached cause lenient strict) (counters : Counters) :
    (Outcome.ofResult (strict.1, counters)).verdict =
      .ok ⟨.temperror, s!"{Domain.normalized reached.domain}: {cause.message}"⟩ := by
  rw [h.strict]
  rfl

theorem Visit.PartAt.lenient_verdict (h : v.PartAt answer context reached cause lenient strict) (counters : Counters) :
    reached = v ∧ (Outcome.ofResult (lenient.1, counters)).verdict = .ok ⟨.none, cause.message⟩ ∨
      TransGen (Enters answer (context.withStrictness false)) v reached ∧ ∃ reference : Reference,
        (Outcome.ofResult (lenient.1, counters)).verdict =
          .ok ⟨.permerror, s!"{reference.text}{reached.domain}: {cause.message}"⟩ := by
  rcases h.lenient with ⟨same, missing⟩ | ⟨behind, reference, missing⟩
  · exact .inl ⟨same, by rw [missing]; rfl⟩
  · exact .inr ⟨behind, reference, by rw [missing]; rfl⟩

/-- A check for a receiver that is strict or not comes to what its first visit comes to; where it begins does not depend
on that. -/
theorem Context.check_eq_withStrictness (context : Context) (domain : String) (strict : Bool) (s : σ) :
    ((context.withStrictness strict).check domain).run answer s =
      (Outcome.ofResult (((Visit.first context domain s).exec answer (context.withStrictness strict)).1,
        ((Visit.first context domain s).exec answer (context.withStrictness strict)).2.counters),
        ((Visit.first context domain s).exec answer (context.withStrictness strict)).2.state) :=
  Context.check_eq_exec _

end

theorem Context.ofText_strict (receiver : Receiver) (strict : Bool) (ip sender helo : String) :
    Context.ofText { receiver with strict } ip sender helo =
      (Context.ofText receiver ip sender helo).map (·.withStrictness strict) := by
  unfold Context.ofText
  cases Address.ofText? ip <;> rfl

section
variable {receiver : Receiver} {ip domain sender helo : String}

/-- For a strict receiver and for one that is not, a check makes the same calls, keeps the same answers and counts the
same. It also comes to the same, unless it comes to a domain whose records cannot be had, for a cause that is neither the
lack of the domain nor temporary: that is a temporary error for the strict receiver, and for the other one no result if the
domain is the checked one, and a permanent error if an include or a redirect leads to it. -/
theorem checkHost_strictness (client : Client) (state : ClientState) :
    let lenient := client.run (checkHost { receiver with strict := false } ip domain sender helo) state
    let strict := client.run (checkHost { receiver with strict := true } ip domain sender helo) state
    lenient.2 = strict.2 ∧
    (∀ context context', Context.ofText { receiver with strict := false } ip sender helo = .ok context →
      Context.ofText { receiver with strict := true } ip sender helo = .ok context' →
      (client.run (context.check domain) state).1.counters = (client.run (context'.check domain) state).1.counters) ∧
    (lenient.1 = strict.1 ∨ ∃ context v cause,
      Context.ofText { receiver with strict := false } ip sender helo = .ok context ∧
      v.Unsettled client.answers cause ∧
      strict.1 = .ok ⟨.temperror, s!"{Domain.normalized v.domain}: {cause.message}"⟩ ∧
      (v = Visit.first context domain state ∧ lenient.1 = .ok ⟨.none, cause.message⟩ ∨
        TransGen (Visit.Enters client.answers context) (Visit.first context domain state) v ∧
          ∃ reference : Reference, lenient.1 = .ok ⟨.permerror, s!"{reference.text}{v.domain}: {cause.message}"⟩)) := by
  dsimp only
  cases hc : Context.ofText receiver ip sender helo with
  | error f =>
    have unread : ∀ strict, Context.ofText { receiver with strict } ip sender helo = .error f := fun strict => by
      rw [Context.ofText_strict, hc]
      rfl
    unfold Client.run
    rw [checkHost_of_error (unread false), checkHost_of_error (unread true), Inquiry.run_done, unread false]
    refine ⟨rfl, ?_, .inl rfl⟩
    rintro _ _ ⟨⟩
  | ok context =>
    have read : ∀ strict, Context.ofText { receiver with strict } ip sender helo = .ok (context.withStrictness strict) :=
      fun strict => by
        rw [Context.ofText_strict, hc]
        rfl
    have runs := Visit.exec_sameOrPart client.answers context (Visit.first context domain state)
    unfold Client.run
    rw [run_checkHost (read false), run_checkHost (read true), read false, read true]
    simp only [Context.check_eq_withStrictness]
    refine ⟨by rw [runs.world], ?_, ?_⟩
    · rintro _ _ ⟨⟩ ⟨⟩
      simp only [Context.check_eq_withStrictness, Outcome.counters_ofResult, runs.world]
    · rcases runs with same | ⟨v, cause, parted⟩
      · exact .inl (by rw [same])
      · exact .inr ⟨_, v, cause, rfl, parted.unsettled, parted.strict_verdict _, parted.lenient_verdict _⟩

end

/-- A zone in which the records of an included domain cannot be had. -/
def brokenIncludeZone : Zone :=
  [("example.com", [("TXT", .fixed (.ok [.text "v=spf1 include:broken.example.com -all"]))]),
   ("broken.example.com", [("TXT", .fixed (.error (.failed .protocol "Malformed reply")))])]

example :
    let results := fun (strict : Bool) (domain : String) => ((Client.ofZone brokenIncludeZone).run
      (checkHost { strict, clock := .whole 0 } "192.0.2.5" domain "user@example.com" "") .unasked).1.map (·.result)
    results true "example.com" = .ok .temperror ∧ results false "example.com" = .ok .permerror ∧
      results true "broken.example.com" = .ok .temperror ∧ results false "broken.example.com" = .ok .none := by
  decide +kernel

end SenderPolicy
