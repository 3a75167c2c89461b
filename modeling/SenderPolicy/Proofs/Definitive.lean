import SenderPolicy.Proofs.Composed
import SenderPolicy.Proofs.Visit

/-! Decisions rest on definite answers. A check that decides has found and read a single record for every
domain that it has entered, and every question that tests a mechanism has been answered by records or by
their lack: no error is passed over on the way. -/

namespace SenderPolicy

open Dns Evaluation Relation

variable {σ α β : Type}

/-! ### Transcripts -/

namespace Dns

/-- The answer tells which records there are, or that there are none. -/
def Answer.Definite (reply : Answer) : Prop := ∀ e, reply = .error e → e = .noSuchName ∨ e = .noAnswer

instance (reply : Answer) : Decidable (Answer.Definite reply) :=
  match reply with
  | .ok _ => isTrue nofun
  | .error e => decidable_of_iff (e = .noSuchName ∨ e = .noAnswer) ⟨fun h _ he => by cases he; exact h, fun h => h e rfl⟩

namespace Inquiry
variable (answer : Question → σ → Answer × σ)

/-- The questions that a run asks, with their answers. -/
def transcript : Inquiry α → σ → List (Question × Answer)
  | done _, _ => []
  | ask q next, s => (q, (answer q s).1) :: (next (answer q s).1).transcript (answer q s).2

theorem transcript_bind (i : Inquiry α) (f : α → Inquiry β) (s : σ) :
    (i.bind f).transcript answer s =
      i.transcript answer s ++ (f (i.run answer s).1).transcript answer (i.run answer s).2 := by
  induction i generalizing s with
  | done a => rfl
  | ask q next ih => exact congrArg (List.cons _) (ih _ _)

theorem transcript_map (f : α → β) (i : Inquiry α) (s : σ) :
    (f <$> i).transcript answer s = i.transcript answer s :=
  (transcript_bind answer i (fun a => done (f a)) s).trans (List.append_nil _)

variable {answer}

theorem AsksOnly.transcript {P : Question → Prop} {i : Inquiry α} (h : i.AsksOnly P) {s : σ} :
    ∀ entry ∈ i.transcript answer s, P entry.1 := by
  induction i generalizing s with
  | done a => exact fun _ hm => absurd hm List.not_mem_nil
  | ask q next ih =>
    obtain ⟨hq, hn⟩ := h
    intro entry hm
    rw [Inquiry.transcript, List.mem_cons] at hm
    rcases hm with rfl | hm
    · exact hq
    · exact ih _ (hn _) entry hm

end Inquiry

end Dns

namespace Evaluation

section
variable (answer : Question → σ → Answer × σ) (context : Context)

/-- The questions that an evaluation asks in a world, with their answers. -/
def transcript (e : Evaluation α) (w : World σ) : List (Question × Answer) :=
  (e.inquiry context w.counters).transcript answer w.state

theorem transcript_ofInquiry (i : Inquiry α) (w : World σ) :
    transcript answer context (ofInquiry i) w = i.transcript answer w.state := by
  unfold transcript
  rw [inquiry_ofInquiry, Inquiry.transcript_bind, Inquiry.transcript, List.append_nil]

/-- Behind an evaluation that fails, nothing is asked. -/
theorem transcript_bind (e : Evaluation α) (f : α → Evaluation β) (w : World σ) :
    transcript answer context (e >>= f) w = transcript answer context e w ++
      match exec answer context e w with
      | (.ok a, w') => transcript answer context (f a) w'
      | (.error _, _) => [] := by
  unfold transcript exec
  rw [inquiry_bind, Inquiry.transcript_bind]
  rcases (e.inquiry context w.counters).run answer w.state with ⟨⟨x | a, counters⟩, s⟩ <;> rfl

theorem transcript_entering (reference : Reference) (target : String) (policy : Evaluation Verdict) (w : World σ) :
    transcript answer context (entering reference target policy) w = transcript answer context policy w := by
  unfold entering transcript
  rw [inquiry_tryCatch, Inquiry.transcript_bind]
  refine (congrArg (_ ++ ·) ?_).trans (List.append_nil _)
  rcases (policy.inquiry context w.counters).run answer w.state with ⟨⟨(e | e) | verdict, counters⟩, s⟩
  · cases e <;> rfl
  · rfl
  · rfl

theorem transcript_records (q : Question) (w : World σ) :
    transcript answer context (attempt (records q)) w = [(q, (answer q w.state).1)] := by
  unfold attempt
  rw [transcript_ofInquiry]
  show ((Inquiry.question q).bind _).transcript answer w.state = _
  rw [Inquiry.transcript_bind, show Inquiry.run answer (.question q) w.state = answer q w.state from rfl]
  show [(q, (answer q w.state).1)] ++ Inquiry.transcript answer _ _ = _
  rcases (answer q w.state).1 with e | found
  · cases e <;> rfl
  · rfl

theorem transcript_countLookup (w : World σ) : transcript answer context countLookup w = [] := by
  show Inquiry.transcript answer (Evaluation.inquiry (if _ then _ else _) context _) _ = []
  split <;> rfl

theorem transcript_countVoidLookup (w : World σ) : transcript answer context countVoidLookup w = [] := by
  show Inquiry.transcript answer (Evaluation.inquiry (if _ then _ else _) context _) _ = []
  split <;> rfl

end

/-! ### Tests of mechanisms -/

section
variable {answer : Question → σ → Answer × σ} {context : Context} {w w' : World σ}

/-- All questions of the evaluation that test a mechanism have been answered definitely. -/
def Informed (answer : Question → σ → Answer × σ) (context : Context) (e : Evaluation α) (w : World σ) : Prop :=
  ∀ entry ∈ transcript answer context e w, entry.1.purpose = .mechanism → Answer.Definite entry.2

theorem informed_of_asksOnly {e : Evaluation α} (h : AsksOnly Question.Aside e) : Informed answer context e w :=
  fun entry hm hp => absurd hp ((h context w.counters).transcript entry hm).purpose

theorem Informed.bind {e : Evaluation α} {f : α → Evaluation β} {a : α} (h : Informed answer context e w)
    (he : exec answer context e w = (.ok a, w')) (hf : Informed answer context (f a) w') :
    Informed answer context (e >>= f) w := by
  intro entry hm
  rw [transcript_bind, he] at hm
  exact (List.mem_append.mp hm).elim (h entry) (hf entry)

/-- Errors other than the lack of records or of the name make a lookup fail so. -/
theorem definite_or_foundRecords (reply : Answer) :
    Answer.Definite reply ∨ ∃ e, e ≠ .noSuchDomain ∧ foundRecords reply = .error e := by
  rcases reply with e | texts
  · cases e with
    | noSuchName => exact .inl (by decide)
    | noAnswer => exact .inl (by decide)
    | _ => exact .inr ⟨_, by simp [LookupError.ofResolver, ResolverError.isTemporary], rfl⟩
  · exact .inl nofun

theorem Composed.informed {e : Evaluation α} (h : Composed e) {a : α} (he : exec answer context e w = (.ok a, w')) :
    Informed answer context e w := by
  induction h generalizing w w' with
  | pure a => exact informed_of_asksOnly (AsksOnly.pure (P := Question.Aside) a)
  | throw x => cases he
  | countLookup => exact informed_of_asksOnly .countLookup
  | countVoidLookup => exact informed_of_asksOnly .countVoidLookup
  | reading _ _ ih => exact ih context he
  | ask h => exact informed_of_asksOnly (.ofInquiry h)
  | @consult _ q f hq _ ht ih =>
    obtain ⟨r, w₁, hr, hf⟩ := exec_bind_ok_iff.mp he
    refine .bind ?_ hr (ih r hf)
    intro entry hm _
    rw [transcript_records, List.mem_singleton] at hm
    subst hm
    -- any other error would have been thrown on, and there would be no value
    refine (definite_or_foundRecords _).resolve_right ?_
    rintro ⟨x, hx, hfound⟩
    unfold attempt at hr
    rw [exec_ofInquiry, run_records, hfound] at hr
    cases hr
    obtain ⟨y, hy⟩ := ht x hx
    rw [hy] at hf
    cases hf
  | bind _ _ ih ihf =>
    obtain ⟨b, w₁, hb, hf⟩ := exec_bind_ok_iff.mp he
    exact .bind (ih hb) hb (ihf b hf)
  | entering _ ih =>
    intro entry hm
    rw [transcript_entering] at hm
    exact ih (exec_entering_ok_iff.mp he) entry hm

theorem Concluding.informed {explain : Bool} {e : Evaluation Verdict} (h : Concluding explain e) {verdict : Verdict}
    (he : exec answer context e w = (.ok verdict, w')) : Informed answer context e w := by
  induction h generalizing w with
  | composed h => exact h.informed he
  | reading _ _ ih => exact ih context he
  | bind h _ ih =>
    obtain ⟨b, w₁, hb, hf⟩ := exec_bind_ok_iff.mp he
    exact .bind (h.informed hb) hb (ih b hf)
  | entering _ ih =>
    intro entry hm
    rw [transcript_entering] at hm
    exact ih (exec_entering_ok_iff.mp he) entry hm
  | explained m domain shown => exact informed_of_asksOnly ((explanation_asksOnly m domain).bind fun _ => .pure _)

end

end Evaluation

/-! ### Records -/

/-- A text is the record of a policy if it is the version or begins with the version and a space. -/
theorem Record.isPolicy_iff {text : String} :
    Record.isPolicy text = true ↔ text = "v=spf1" ∨ ∃ rest, text = "v=spf1 " ++ rest := by
  unfold isPolicy
  rw [Bool.or_eq_true, beq_iff_eq, List.isPrefixOf_iff_prefix]
  constructor
  · rintro (h | ⟨rest, h⟩)
    · exact .inl (String.toList_inj.mp h)
    · exact .inr ⟨String.ofList rest, String.toList_inj.mp (by rw [← h]; simp [version])⟩
  · rintro (rfl | ⟨rest, rfl⟩)
    · exact .inl rfl
    · exact .inr ⟨rest.toList, by simp [version]⟩

namespace Visit

section
variable {answer : Question → σ → Answer × σ} {context : Context} {v v' : Visit σ} {verdict : Verdict} {w : World σ}

/-- The record behind a verdict is the only one of its domain, and reads as a whole. -/
theorem readable_of_exec (h : v.exec answer context = (.ok verdict, w)) :
    ∃ texts record terms, (answer (Record.question v.domain) v.world.state).1 = .ok texts ∧
      texts.filter Record.isPolicy = [record] ∧ Record.read v.domain Record.defaultMarker record = .ok terms ∧
      (terms.filterMap Term.modifier?).countP Modifier.isRedirect ≤ 1 ∧
      (terms.filterMap Term.modifier?).countP Modifier.isExplanation ≤ 1 := by
  obtain ⟨found, rest, w₁, terms, w₀, ⟨-, ho⟩, hf, -⟩ : ∃ found rest w₁, v.Searches answer context found rest w₁ := by
    cases settles_of_exec h with
    | byDefault hs | byMatch hs => exact ⟨_, _, _, hs⟩
    | byRedirect hr =>
      obtain ⟨found, _, w₁, _, _, hs, -⟩ := hr
      exact ⟨found, [], w₁, hs⟩
  obtain ⟨texts, record, hreply, hfilter, hread⟩ := readFound_ok_iff.mp (exec_policyTerms_ok_iff.mp ho).2.1
  obtain ⟨redirects, explanations⟩ := countP_of_collectModifiers hf
  exact ⟨texts, record, terms, hreply, hfilter, hread, redirects, explanations⟩

theorem exec_ok_of_reaches (h : ReflTransGen (Enters answer context) v v') (hv : v.exec answer context = (.ok verdict, w)) :
    ∃ verdict' w', v'.exec answer context = (.ok verdict', w') := by
  induction h with
  | refl => exact ⟨verdict, w, hv⟩
  | tail _ he ih =>
    obtain ⟨verdict', w', h'⟩ := ih
    exact exec_ok_of_enters he h'

end

end Visit

/-! ### Decisions of checks -/

theorem transcript_checkHost {answer : Question → σ → Answer × σ} {receiver : Receiver} {ip domain sender helo : String}
    {context : Context} (h : Context.ofText receiver ip sender helo = .ok context) (s : σ) :
    (checkHost receiver ip domain sender helo).transcript answer s =
      transcript answer context (policyOf (levelsFrom context.receiver.limits 0) domain true) (.fresh s) := by
  unfold checkHost
  rw [h]
  dsimp only
  rw [Inquiry.transcript_map]
  exact Inquiry.transcript_map ..

/-- A check that decides has read the only record of every domain it has entered, with at most one redirect
and one explanation, and no question that tests a mechanism has ended in an error other than the lack of the
name or of records. -/
theorem readable_of_checkHost {client : Client} {state : ClientState} {receiver : Receiver}
    {ip domain sender helo : String} {verdict : Verdict}
    (h : (client.run (checkHost receiver ip domain sender helo) state).1 = .ok verdict)
    (hd : verdict.result ∈ Result.decisions) :
    ∃ context, Context.ofText receiver ip sender helo = .ok context ∧
      (∀ v, ReflTransGen (Visit.Enters client.answers context) (Visit.first context domain state) v →
        ∃ texts record terms, (client.answers (Record.question v.domain) v.world.state).1 = .ok texts ∧
          texts.filter Record.isPolicy = [record] ∧ Record.read v.domain Record.defaultMarker record = .ok terms ∧
          (terms.filterMap Term.modifier?).countP Modifier.isRedirect ≤ 1 ∧
          (terms.filterMap Term.modifier?).countP Modifier.isExplanation ≤ 1) ∧
      ∀ entry ∈ (checkHost receiver ip domain sender helo).transcript client.answers state,
        entry.1.purpose = .mechanism → Answer.Definite entry.2 := by
  obtain ⟨context, hc, hv⟩ := context_of_checkHost h
  obtain ⟨w, he⟩ := exec_first_of_decision hv hd
  refine ⟨context, hc, fun v reached => ?_, ?_⟩
  · obtain ⟨verdict', w', h'⟩ := Visit.exec_ok_of_reaches reached he
    exact Visit.readable_of_exec h'
  · rw [transcript_checkHost hc]
    exact (policyOf_concluding _ domain true).informed he

/-- A zone in which a name without addresses is passed over before a redirect leads to a match. -/
def missingHostZone : Zone :=
  [("example.com", [("TXT", .fixed (.ok [.text "v=spf1 a:gone.example.com redirect=next.example.com"]))]),
   ("next.example.com", [("TXT", .fixed (.ok [.text "unrelated", .text "v=spf1 ~all"]))])]

theorem readable_missingHostZone :
    ∃ context, Context.ofText { clock := .whole 0 } "192.0.2.5" "user@example.com" "" = .ok context ∧
      ∀ v, ReflTransGen (Visit.Enters (Client.ofZone missingHostZone).answers context)
        (Visit.first context "example.com" ClientState.unasked) v →
        ∃ texts record, ((Client.ofZone missingHostZone).answers (Record.question v.domain) v.world.state).1 = .ok texts ∧
          texts.filter Record.isPolicy = [record] := by
  have run : ((Client.ofZone missingHostZone).run
      (checkHost { clock := .whole 0 } "192.0.2.5" "example.com" "user@example.com" "") ClientState.unasked).1 =
      .ok ⟨.softfail, "Sender IP 192.0.2.5 matched ~all"⟩ := by decide +kernel
  obtain ⟨context, hc, readable, -⟩ := readable_of_checkHost run (by decide)
  refine ⟨context, hc, fun v reached => ?_⟩
  obtain ⟨texts, record, -, hreply, hfilter, -⟩ := readable v reached
  exact ⟨texts, record, hreply, hfilter⟩

end SenderPolicy
