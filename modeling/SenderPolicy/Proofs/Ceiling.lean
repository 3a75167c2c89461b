import SenderPolicy.Proofs.Composed
import SenderPolicy.Proofs.Visit

/-! The ceilings for lookups are exact. A run under lower ceilings does the same as one under higher ceilings
until the first excess and stops there; what is counted is never taken back, so both runs agree if the counters
of the one under higher ceilings end within the lower ones, and only then. Explanations are the exception: an
excess there is no error, but nothing that is counted for them is kept either. -/

namespace SenderPolicy

open Dns Evaluation

variable {σ α β : Type}

/-! ### Counters -/

namespace Counters

/-- Neither counter is taken back. -/
structure GrowTo (c c' : Counters) : Prop where
  lookups : c.lookups ≤ c'.lookups
  voidLookups : c.voidLookups ≤ c'.voidLookups

/-- Both counters keep to ceilings. -/
structure Within (l v : Int) (c : Counters) : Prop where
  lookups : c.lookups ≤ l
  voidLookups : c.voidLookups ≤ v

/-- A single counter exceeds its ceiling, by one. -/
def Exceeds (l v : Int) (c : Counters) : Prop :=
  (c.lookups = l + 1 ∧ c.voidLookups ≤ v) ∨ (c.lookups ≤ l ∧ c.voidLookups = v + 1)

theorem GrowTo.refl (c : Counters) : c.GrowTo c := ⟨Int.le_refl _, Int.le_refl _⟩

theorem GrowTo.trans {c c' c'' : Counters} (h : c.GrowTo c') (h' : c'.GrowTo c'') : c.GrowTo c'' :=
  ⟨Int.le_trans h.lookups h'.lookups, Int.le_trans h.voidLookups h'.voidLookups⟩

theorem Within.of_growTo {l v : Int} {c c' : Counters} (h : c'.Within l v) (hg : c.GrowTo c') : c.Within l v :=
  ⟨Int.le_trans hg.lookups h.lookups, Int.le_trans hg.voidLookups h.voidLookups⟩

theorem Exceeds.not_within {l v : Int} {c : Counters} (h : c.Exceeds l v) : ¬ c.Within l v := by
  rintro ⟨hl, hv⟩
  rcases h with h | h <;> omega

end Counters

namespace Evaluation

section
variable {answer : Question → σ → Answer × σ} {context : Context} {w : World σ}

theorem growTo_bind {e : Evaluation α} {f : α → Evaluation β}
    (h : w.counters.GrowTo (exec answer context e w).2.counters)
    (hf : ∀ a (w : World σ), w.counters.GrowTo (exec answer context (f a) w).2.counters) :
    w.counters.GrowTo (exec answer context (e >>= f) w).2.counters := by
  rw [exec_bind]
  generalize exec answer context e w = r at h
  obtain ⟨x | a, w'⟩ := r
  · exact h
  · exact h.trans (hf a w')

theorem Composed.growTo {e : Evaluation α} (h : Composed e) (w : World σ) :
    w.counters.GrowTo (exec answer context e w).2.counters := by
  induction h generalizing w with
  | pure | throw => exact .refl _
  | reading _ _ ih => exact ih context w
  | countLookup =>
    rw [exec_countLookup]
    exact ⟨Int.le_add_one (Int.le_refl _), Int.le_refl _⟩
  | countVoidLookup =>
    rw [exec_countVoidLookup]
    exact ⟨Int.le_refl _, Int.le_add_one (Int.le_refl _)⟩
  | ask =>
    rw [exec_ofInquiry]
    exact .refl _
  | consult _ _ _ ih =>
    refine growTo_bind ?_ ih
    unfold attempt
    rw [exec_ofInquiry]
    exact .refl _
  | bind _ _ ih ihf => exact growTo_bind (ih w) ihf
  | entering _ ih =>
    rw [exec_entering]
    exact ih w

/-! ### Explanations -/

/-- The evaluation counts nothing. -/
def Uncounting (answer : Question → σ → Answer × σ) (context : Context) (e : Evaluation α) : Prop :=
  ∀ w, (exec answer context e w).2.counters = w.counters

theorem Uncounting.bind {e : Evaluation α} {f : α → Evaluation β} (h : Uncounting answer context e)
    (hf : ∀ a, Uncounting answer context (f a)) : Uncounting answer context (e >>= f) := by
  intro w
  have he := h w
  rw [exec_bind]
  generalize exec answer context e w = r at he
  obtain ⟨x | a, w'⟩ := r
  · exact he
  · exact (hf a w').trans he

theorem uncounting_pure (a : α) : Uncounting answer context (Pure.pure a) := fun _ => rfl

theorem uncounting_throw (x : Failure) : Uncounting answer context (throw x : Evaluation α) := fun _ => rfl

theorem uncounting_ofInquiry (i : Inquiry α) : Uncounting answer context (ofInquiry i) := fun w => by
  rw [exec_ofInquiry]

theorem uncounting_uncounted (e : Evaluation α) : Uncounting answer context (uncounted e) := fun w => by
  rw [exec_uncounted]

theorem Uncounting.tryCatch {e : Evaluation α} {handle : Failure → Evaluation α} (h : Uncounting answer context e)
    (hh : ∀ x, Uncounting answer context (handle x)) : Uncounting answer context (tryCatch e handle) := by
  intro w
  have he := h w
  rw [exec_tryCatch]
  generalize exec answer context e w = r at he
  obtain ⟨x | a, w'⟩ := r
  · exact (hh x w').trans he
  · exact he

theorem Uncounting.map {e : Evaluation α} (h : Uncounting answer context e) (f : α → β) :
    Uncounting answer context (f <$> e) := fun w => by
  rw [exec_map]
  exact h w

theorem Uncounting.reading {f : Context → Evaluation α} (h : Uncounting answer context (f context)) :
    Uncounting answer context (read >>= f) := h

theorem clientNames_uncounting : Uncounting answer context clientNames :=
  .reading (.bind (uncounting_ofInquiry _) fun r => by
    rcases r with (e | text) | names
    · exact uncounting_pure _
    · exact uncounting_throw _
    · exact uncounting_pure _)

/-- Macros in an explanation are not counted, whatever they stand for. -/
theorem fact_uncounting (domain : String) (letter : Letter) : Uncounting answer context (fact true domain letter) := by
  refine .reading ?_
  cases letter with
  | address =>
    show Uncounting answer context (addressText context.address)
    unfold addressText
    cases context.address.macroText with
    | error e => exact uncounting_throw _
    | ok text => exact uncounting_pure _
  | confirmedName => exact clientNames_uncounting.bind fun r => by cases r <;> exact uncounting_pure _
  | _ => exact uncounting_pure _

theorem expandTokens_uncounting (domain : String) :
    ∀ tokens, Uncounting answer context (expandTokens true domain tokens)
  | [] => uncounting_pure _
  | .literal _ :: rest => (expandTokens_uncounting domain rest).bind fun _ => uncounting_pure _
  | .expansion _ :: rest =>
    (fact_uncounting domain _).bind fun _ => (expandTokens_uncounting domain rest).bind fun _ => uncounting_pure _

theorem expand_uncounting (domain text : String) : Uncounting answer context (expand true domain text) := by
  unfold expand
  split
  · exact uncounting_throw _
  · exact expandTokens_uncounting domain _

theorem explanationAt_uncounting (domain target : String) : Uncounting answer context (explanationAt domain target) :=
  (uncounting_ofInquiry _).bind fun r => by
    split
    · exact (expand_uncounting domain _).map _
    · exact uncounting_pure _

theorem explanation_uncounting (m : Modifier) (domain : String) : Uncounting answer context (explanation m domain) := by
  intro w
  rw [explanation_eq, exec_askedFor]
  refine Uncounting.tryCatch ((uncounting_uncounted _).bind fun target => explanationAt_uncounting domain target)
    (fun x => ?_) w
  cases x with
  | policy e => exact uncounting_pure _
  | fault f => exact uncounting_throw _

end

section
variable {answer : Question → σ → Answer × σ} {context : Context}

theorem exec_explanation_error {m : Modifier} {domain : String} {w w' : World σ} {x : Failure}
    (h : exec answer context (explanation m domain) w = (.error x, w')) : ∃ f, x = .fault f := by
  rw [exec_explanation] at h
  generalize exec _ context (uncounted (targetName domain m.macroString) >>= explanationAt domain) w = r at h
  obtain ⟨(e | f) | text, w₁⟩ := r
  · cases h
  · cases h
    exact ⟨f, rfl⟩
  · cases h

theorem Concluding.growTo {explain : Bool} {e : Evaluation Verdict} (h : Concluding explain e) (w : World σ) :
    w.counters.GrowTo (exec answer context e w).2.counters := by
  induction h generalizing w with
  | composed h => exact h.growTo w
  | reading _ _ ih => exact ih context w
  | bind h _ ih => exact growTo_bind (h.growTo w) ih
  | entering _ ih =>
    rw [exec_entering]
    exact ih w
  | explained m domain shown =>
    refine growTo_bind ?_ fun _ _ => .refl _
    rw [explanation_uncounting m domain w]
    exact .refl _

end

/-! ### Runs in step -/

/-- The run under the lower ceilings has stopped at the first excess; the other one is beyond it. -/
structure Stopped (l v : Int) (low high : Except Failure α × World σ) : Prop where
  error : ∃ e, low.1 = .error (.policy e) ∧ e.result = .permerror
  exceeds : low.2.counters.Exceeds l v
  beyond : ¬ high.2.counters.Within l v

section
variable {answer : Question → σ → Answer × σ} {context : Context} {l v l' v' : Int}

theorem Stopped.bind {e : Evaluation α} {f : α → Evaluation β} {low high : Context} {w : World σ}
    (h : Stopped l v (exec answer low e w) (exec answer high e w))
    (hf : ∀ a (w : World σ), w.counters.GrowTo (exec answer high (f a) w).2.counters) :
    Stopped l v (exec answer low (e >>= f) w) (exec answer high (e >>= f) w) := by
  obtain ⟨⟨x, hx, hr⟩, exceeds, beyond⟩ := h
  rw [exec_bind, exec_bind]
  generalize exec answer low e w = r at hx exceeds
  generalize exec answer high e w = r' at beyond
  obtain ⟨_, w₁⟩ := r
  cases hx
  refine ⟨⟨x, rfl, hr⟩, exceeds, ?_⟩
  obtain ⟨y | a, w₂⟩ := r'
  · exact beyond
  · exact fun within => beyond (within.of_growTo (hf a w₂))

theorem Stopped.entering {reference : Reference} {target : String} {policy : Evaluation Verdict} {low high : Context}
    {w : World σ} (h : Stopped l v (exec answer low policy w) (exec answer high policy w)) :
    Stopped l v (exec answer low (entering reference target policy) w)
      (exec answer high (entering reference target policy) w) := by
  obtain ⟨⟨x, hx, hr⟩, exceeds, beyond⟩ := h
  rw [exec_entering, exec_entering, hx]
  refine ⟨⟨x, ?_, hr⟩, exceeds, beyond⟩
  -- the entry changes the error of a missing policy only, which is none of a ceiling
  cases x with
  | noPolicy cause => cases hr
  | _ => rfl

theorem inStep_counted {ceiling ceiling' count : Int} {e e' : PolicyError} {w : World σ} (he : e.result = .permerror)
    (hc : ceiling ≤ ceiling') (within : count ≤ ceiling → w.counters.Within l v)
    (exceeds : ceiling < count → w.counters.Exceeds l v) :
    ((if ceiling < count then Except.error (Failure.policy e) else .ok (), w) =
        (if ceiling' < count then Except.error (Failure.policy e') else .ok (), w) ∧ w.counters.Within l v) ∨
      Stopped l v (if ceiling < count then Except.error (Failure.policy e) else .ok (), w)
        (if ceiling' < count then Except.error (Failure.policy e') else .ok (), w) := by
  by_cases excess : ceiling < count
  · exact .inr ⟨⟨e, if_pos excess, he⟩, exceeds excess, (exceeds excess).not_within⟩
  · rw [if_neg excess, if_neg (by omega)]
    exact .inl ⟨rfl, within (by omega)⟩

/-- Under lower ceilings a composed evaluation does the same, or it stops at the first excess. -/
theorem Composed.inStep {e : Evaluation α} (h : Composed e) (hl : l ≤ l') (hv : v ≤ v') {w : World σ}
    (hw : w.counters.Within l v) :
    (exec answer (context.withCeilings l v) e w = exec answer (context.withCeilings l' v') e w ∧
      (exec answer (context.withCeilings l' v') e w).2.counters.Within l v) ∨
    Stopped l v (exec answer (context.withCeilings l v) e w) (exec answer (context.withCeilings l' v') e w) := by
  induction h generalizing w with
  | pure | throw => exact .inl ⟨rfl, hw⟩
  | reading h _ ih =>
    rw [exec_read_bind, exec_read_bind, h, h]
    exact ih context hw
  | countLookup =>
    rw [exec_countLookup, exec_countLookup]
    refine inStep_counted rfl hl (fun h => ⟨h, hw.voidLookups⟩) fun h => .inl ⟨?_, hw.voidLookups⟩
    exact Int.le_antisymm (Int.add_le_add_right hw.lookups 1) h
  | countVoidLookup =>
    rw [exec_countVoidLookup, exec_countVoidLookup]
    refine inStep_counted rfl hv (fun h => ⟨hw.lookups, h⟩) fun h => .inr ⟨hw.lookups, ?_⟩
    exact Int.le_antisymm (Int.add_le_add_right hw.voidLookups 1) h
  | ask =>
    rw [exec_ofInquiry, exec_ofInquiry]
    exact .inl ⟨rfl, hw⟩
  | consult _ _ _ ih =>
    unfold attempt
    rw [exec_bind, exec_bind, exec_ofInquiry, exec_ofInquiry]
    exact ih _ hw
  | bind _ hf ih ihf =>
    -- what follows begins in the same world, or the run under the lower ceilings has stopped before it
    rcases ih hw with ⟨same, within⟩ | stopped
    · rw [exec_bind, exec_bind, same]
      generalize exec answer (context.withCeilings l' v') _ w = r at within
      obtain ⟨x | a, w₁⟩ := r
      · exact .inl ⟨rfl, within⟩
      · exact ihf a within
    · exact .inr (stopped.bind fun a w => (hf a).growTo w)
  | entering _ ih =>
    rcases ih hw with ⟨same, within⟩ | stopped
    · rw [exec_entering, exec_entering, same]
      exact .inl ⟨rfl, within⟩
    · exact .inr stopped.entering

theorem explanationAt_inStep (answer : Question → σ → Answer × σ) (context : Context) (domain spec : String) (hl : l ≤ l')
    (hv : v ≤ v') {w : World σ} (hw : w.counters.Within l v) :
    (exec answer (context.withCeilings l v) (uncounted (targetName domain spec) >>= explanationAt domain) w).1 =
        (exec answer (context.withCeilings l' v') (uncounted (targetName domain spec) >>= explanationAt domain) w).1 ∨
      ∃ e, (exec answer (context.withCeilings l v) (uncounted (targetName domain spec) >>= explanationAt domain) w).1 =
        .error (.policy e) := by
  rw [exec_bind, exec_bind, exec_uncounted, exec_uncounted]
  rcases (targetName_composed domain spec).inStep hl hv hw with ⟨same, -⟩ | ⟨⟨e, he, -⟩, -, -⟩
  · rw [same]
    rcases exec _ (context.withCeilings l' v') (targetName domain spec) w with ⟨x | target, w₁⟩
    · exact .inl rfl
    · -- the counters are those from before the target, so the runs are in step once more
      rcases (explanationAt_composed domain target).inStep (w := ⟨w.counters, w₁.state⟩) hl hv hw with
        ⟨same, -⟩ | ⟨⟨e, he, -⟩, -, -⟩
      · exact .inl (congrArg Prod.fst same)
      · exact .inr ⟨e, he⟩
  · rw [he]
    exact .inr ⟨e, rfl⟩

/-- Under lower ceilings an explanation is the same, or there is none. -/
theorem explanation_inStep (m : Modifier) (domain : String) (hl : l ≤ l') (hv : v ≤ v') {w : World σ}
    (hw : w.counters.Within l v) :
    (exec answer (context.withCeilings l v) (explanation m domain) w).1 =
        (exec answer (context.withCeilings l' v') (explanation m domain) w).1 ∨
      (exec answer (context.withCeilings l v) (explanation m domain) w).1 = .ok none := by
  have inStep := explanationAt_inStep (fun q => answer { q with purpose := .explanation }) context domain m.macroString
    hl hv hw
  rw [exec_explanation, exec_explanation]
  dsimp only
  rcases inStep with same | ⟨e, he⟩
  · exact .inl (by rw [same])
  · exact .inr (by rw [he]; rfl)

/-- Two runs agree in the result or error they come to and in what they have counted, which is within ceilings. -/
structure Agree (l v : Int) (low high : Except Failure Verdict × World σ) : Prop where
  result : low.1.map (·.result) = high.1.map (·.result)
  counters : low.2.counters = high.2.counters
  within : high.2.counters.Within l v

theorem Agree.entering {reference : Reference} {target : String} {policy : Evaluation Verdict} {low high : Context}
    {w : World σ} (h : Agree l v (exec answer low policy w) (exec answer high policy w)) :
    Agree l v (exec answer low (entering reference target policy) w)
      (exec answer high (entering reference target policy) w) := by
  obtain ⟨result, counters, within⟩ := h
  rw [exec_entering, exec_entering]
  refine ⟨?_, counters, within⟩
  generalize (exec answer low policy w).1 = r at result
  generalize (exec answer high policy w).1 = r' at result
  obtain x | verdict := r <;> obtain x' | verdict' := r'
  · cases result
    rfl
  · cases result
  · cases result
  · exact result

/-- Under lower ceilings an evaluation that comes to no fault comes to the same result, or it stops at the first
excess. -/
theorem Concluding.inStep {explain : Bool} {e : Evaluation Verdict} (h : Concluding explain e) (hl : l ≤ l') (hv : v ≤ v')
    {w : World σ} (hw : w.counters.Within l v)
    (hf : ∀ f, (exec answer (context.withCeilings l' v') e w).1 ≠ .error (.fault f)) :
    Agree l v (exec answer (context.withCeilings l v) e w) (exec answer (context.withCeilings l' v') e w) ∨
      Stopped l v (exec answer (context.withCeilings l v) e w) (exec answer (context.withCeilings l' v') e w) := by
  induction h generalizing w with
  | composed h => exact (h.inStep hl hv hw).imp_left fun ⟨same, within⟩ => ⟨by rw [same], by rw [same], within⟩
  | reading h _ ih =>
    rw [exec_read_bind, h] at hf ⊢
    rw [exec_read_bind, h]
    exact ih context hw hf
  | @bind _ _ e f h hc ih =>
    rcases h.inStep hl hv hw with ⟨same, within⟩ | stopped
    · rw [exec_bind] at hf
      rw [exec_bind, exec_bind, same]
      generalize exec answer (context.withCeilings l' v') e w = r at within hf
      obtain ⟨x | a, w₁⟩ := r
      · exact .inl ⟨rfl, rfl, within⟩
      · exact ih a within hf
    · exact .inr (stopped.bind fun a w => (hc a).growTo w)
  | @entering _ reference target policy _ ih =>
    refine (ih hw fun f hp => ?_).imp Agree.entering Stopped.entering
    exact hf f (congrArg Prod.fst (exec_entering_fault_iff.mpr (Prod.ext hp rfl)))
  | explained m domain shown =>
    obtain ⟨text', htext'⟩ : ∃ text, (exec answer (context.withCeilings l' v') (explanation m domain) w).1 = .ok text := by
      rcases hr : exec answer (context.withCeilings l' v') (explanation m domain) w with ⟨x | text, w₁⟩
      · obtain ⟨f, rfl⟩ := exec_explanation_error hr
        exact absurd (congrArg Prod.fst (exec_bind_of_error hr)) (hf f)
      · exact ⟨text, rfl⟩
    obtain ⟨text, htext⟩ : ∃ text, (exec answer (context.withCeilings l v) (explanation m domain) w).1 = .ok text :=
      (explanation_inStep m domain hl hv hw).elim (fun same => ⟨text', same.trans htext'⟩) fun none => ⟨_, none⟩
    -- the texts may differ, but the result does not depend on them and nothing is counted for them
    rw [exec_bind_of_ok (Prod.ext htext rfl), exec_bind_of_ok (Prod.ext htext' rfl), exec_pure, exec_pure]
    refine .inl ⟨rfl, ?_, ?_⟩
    · dsimp only
      rw [explanation_uncounting, explanation_uncounting]
    · dsimp only
      rw [explanation_uncounting]
      exact hw

end

end Evaluation

/-! ### Checks -/

theorem Outcome.result_ofResult {r r' : Except Failure Verdict} (h : r.map (·.result) = r'.map (·.result))
    (c c' : Counters) :
    (ofResult (r, c)).verdict.map (·.result) = (ofResult (r', c')).verdict.map (·.result) := by
  obtain x | verdict := r <;> obtain x' | verdict' := r'
  · cases h
    cases x <;> rfl
  · cases h
  · cases h
  · have same : verdict.result = verdict'.result := Except.ok.inj h
    exact congrArg Except.ok same

/-- The outcome of a check under ceilings for lookups, with a fresh count. -/
def Dns.Client.outcomeUnder (client : Client) (l v : Int) (context : Context) (domain : String) (state : ClientState) :
    Outcome :=
  (client.run ((context.withCeilings l v).check domain) state).1

/-- If a check counts no more than lower ceilings allow, it comes to the same under these. Otherwise it comes to a
permanent error there, and a single counter exceeds its ceiling, by one. -/
theorem outcomeUnder_inStep {client : Client} {context : Context} {domain : String} {state : ClientState}
    {l v l' v' : Int} {verdict : Verdict} (hl0 : 0 ≤ l) (hl : l ≤ l') (hv0 : 0 ≤ v) (hv : v ≤ v')
    (h : (client.outcomeUnder l' v' context domain state).verdict = .ok verdict) :
    ((client.outcomeUnder l' v' context domain state).counters.Within l v →
      (client.outcomeUnder l v context domain state).verdict.map (·.result) = .ok verdict.result ∧
        (client.outcomeUnder l v context domain state).counters =
          (client.outcomeUnder l' v' context domain state).counters) ∧
    (¬ (client.outcomeUnder l' v' context domain state).counters.Within l v →
      (client.outcomeUnder l v context domain state).verdict.map (·.result) = .ok .permerror ∧
        (client.outcomeUnder l v context domain state).counters.Exceeds l v) := by
  have outcome : ∀ l v, client.outcomeUnder l v context domain state =
      let ran := exec client.answers (context.withCeilings l v)
        (policyOf (levelsFrom context.receiver.limits 0) domain true) (.fresh state)
      Outcome.ofResult (ran.1, ran.2.counters) := fun l v => by
    have checked : ((context.withCeilings l v).check domain).run client.answers state = _ := Context.check_eq_exec _
    exact congrArg Prod.fst checked
  rw [outcome] at h ⊢
  rw [outcome]
  have inStep := @Concluding.inStep _ client.answers context l v l' v' true _
    (policyOf_concluding (levelsFrom context.receiver.limits 0) domain true) hl hv (.fresh state) ⟨hl0, hv0⟩
  generalize exec _ (context.withCeilings l v) _ _ = low at inStep ⊢
  generalize exec _ (context.withCeilings l' v') _ _ = high at inStep h ⊢
  have counters : ∀ x : Except Failure Verdict × World ClientState,
      (Outcome.ofResult (x.1, x.2.counters)).counters = x.2.counters := by
    rintro ⟨(x | x) | verdict, w⟩ <;> rfl
  have faultless : ∀ f, high.1 ≠ .error (.fault f) := fun f hf => by
    dsimp only at h
    rw [hf] at h
    cases h
  dsimp only at h ⊢
  rw [counters, counters]
  refine ⟨fun within => ?_, fun beyond => ?_⟩
  · obtain ⟨result, same, -⟩ := (inStep faultless).resolve_right fun stopped => stopped.beyond within
    exact ⟨(Outcome.result_ofResult result ..).trans (by rw [h]; rfl), same⟩
  · obtain ⟨⟨e, he, hr⟩, exceeds, -⟩ := (inStep faultless).resolve_left fun agree => beyond agree.within
    rw [he]
    exact ⟨congrArg Except.ok hr, exceeds⟩

/-- A zone whose policy looks up the addresses of one host that has some, and of one that has none. -/
def twoHostsZone : Zone :=
  [("example.com", [("TXT", .fixed (.ok [.text "v=spf1 a:gone.example.com a:mail.example.com -all"]))]),
   ("mail.example.com", [("A", .fixed (.ok [.text "192.0.2.5"]))])]

/-- A context for that zone. -/
def twoHostsContext : Context := ⟨{ clock := .whole 0 }, .v4 0xC0000205, "user", "example.com", ""⟩

theorem outcomeUnder_twoHostsZone :
    ((Client.ofZone twoHostsZone).outcomeUnder 1 2 twoHostsContext "example.com" .unasked).verdict.map (·.result) =
        .ok .permerror ∧
      ((Client.ofZone twoHostsZone).outcomeUnder 2 1 twoHostsContext "example.com" .unasked).verdict.map (·.result) =
        .ok .pass := by
  have run : ((Client.ofZone twoHostsZone).outcomeUnder 10 2 twoHostsContext "example.com" .unasked).verdict =
      .ok ⟨.pass, "Allowed sender IP: 192.0.2.5"⟩ := by decide
  have counted : ((Client.ofZone twoHostsZone).outcomeUnder 10 2 twoHostsContext "example.com" .unasked).counters =
      ⟨2, 1⟩ := by decide
  refine ⟨((outcomeUnder_inStep ?_ ?_ ?_ ?_ run).2 fun h => ?_).1, ((outcomeUnder_inStep ?_ ?_ ?_ ?_ run).1 ?_).1⟩
  case refine_5 =>
    rw [counted] at h
    exact absurd h.lookups (by decide)
  case refine_10 =>
    rw [counted]
    exact ⟨by decide, by decide⟩
  all_goals decide

end SenderPolicy
