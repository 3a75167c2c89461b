import SenderPolicy.Proofs.CacheEntries
import SenderPolicy.Proofs.Ceiling
import SenderPolicy.Proofs.Definitive
import SenderPolicy.Proofs.Metered

/-! How often a check may call the resolver. Every lookup that may still be counted is a reserve for one batch of
questions. What an evaluation asks is taken from the reserve, apart from its price, so the questions of a whole check are
bounded by the reserve with which it begins and the one question for its own record, however its policies refer to each
other. Questions for an explanation are not bounded so, and are left out. -/

namespace SenderPolicy

open Dns Evaluation

variable {σ α β ε : Type}

/-! ### Charged questions -/

namespace Dns

/-- The question is not asked for an explanation. -/
def Question.isCharged (q : Question) : Bool := q.purpose != .explanation

theorem isCharged_renamed (q : Question) (name : String) : Question.isCharged { q with name } = q.isCharged := rfl

namespace Inquiry

/-- The inquiry asks at most a number of questions, whatever the answers are. -/
def AsksAtMost : Nat → Inquiry α → Prop
  | _, done _ => True
  | 0, ask _ _ => False
  | n + 1, ask _ next => ∀ reply, (next reply).AsksAtMost n

theorem asksOnly_askedFor (purpose : Purpose) (i : Inquiry α) : (i.askedFor purpose).AsksOnly fun q => q.purpose = purpose := by
  induction i with
  | done a => trivial
  | ask q next ih => exact ⟨rfl, ih⟩

theorem asksAtMost_done {n : Nat} (a : α) : (done a).AsksAtMost n := by
  cases n <;> trivial

theorem asksAtMost_question (q : Question) : (question q).AsksAtMost 1 := fun reply => asksAtMost_done reply

theorem AsksAtMost.mono {n k : Nat} {i : Inquiry α} (h : i.AsksAtMost n) (hk : n ≤ k) : i.AsksAtMost k := by
  induction i generalizing n k with
  | done a => exact asksAtMost_done a
  | ask q next ih =>
    cases n with
    | zero => exact h.elim
    | succ n =>
      cases k with
      | zero => omega
      | succ k => exact fun reply => ih reply (h reply) (by omega)

theorem AsksAtMost.bind {n k : Nat} {i : Inquiry α} {f : α → Inquiry β} (h : i.AsksAtMost n)
    (hf : ∀ a, (f a).AsksAtMost k) : (i.bind f).AsksAtMost (n + k) := by
  induction i generalizing n with
  | done a => exact (hf a).mono (Nat.le_add_left ..)
  | ask q next ih =>
    cases n with
    | zero => exact h.elim
    | succ n =>
      rw [Nat.succ_add]
      exact fun reply => ih reply (h reply)

theorem AsksAtMost.length_transcript {answer : Question → σ → Answer × σ} {n : Nat} {i : Inquiry α} (h : i.AsksAtMost n)
    (s : σ) : (i.transcript answer s).length ≤ n := by
  induction i generalizing n s with
  | done a => exact Nat.zero_le n
  | ask q next ih =>
    cases n with
    | zero => exact h.elim
    | succ n => exact Nat.succ_le_succ (ih _ (h _) _)

end Inquiry

/-! ### Lookups -/

section
variable {purpose : Purpose}

theorem records_asksAtMost (q : Question) : (records q).run.AsksAtMost 1 :=
  (Inquiry.asksAtMost_question q).bind (k := 0) fun reply => by split <;> trivial

theorem bind_asksAtMost {n k : Nat} {e : ExceptT ε Inquiry α} {f : α → ExceptT ε Inquiry β} (h : e.run.AsksAtMost n)
    (hf : ∀ a, (f a).run.AsksAtMost k) : (e >>= f).run.AsksAtMost (n + k) :=
  h.bind fun r => by
    cases r with
    | error x => exact Inquiry.asksAtMost_done _
    | ok a => exact hf a

theorem lift_asksAtMost {n : Nat} {i : Inquiry α} (h : i.AsksAtMost n) :
    (ExceptT.lift i : ExceptT ε Inquiry α).run.AsksAtMost n :=
  h.bind (k := 0) fun _ => trivial

theorem addresses_asksAtMost (name : String) (family : Family) : (addresses purpose name [family]).run.AsksAtMost 1 := by
  rw [addresses_run]
  exact (records_asksAtMost _).bind (k := 0) fun _ => trivial

theorem pointers_asksAtMost (reverseName : Option String) : (pointers purpose reverseName).run.AsksAtMost 1 := by
  unfold pointers
  cases reverseName with
  | none => exact Inquiry.asksAtMost_done _
  | some name =>
    refine (records_asksAtMost _).bind (k := 0) fun r => ?_
    rcases r with e | found
    · cases e <;> trivial
    · trivial

/-- To confirm names, one question is asked for each. -/
theorem confirmed_asksAtMost {address : Address} : ∀ names, (confirmed purpose address names).run.AsksAtMost names.length
  | [] => trivial
  | name :: rest => by
    have later : (confirmed purpose address rest).run.AsksAtMost rest.length := confirmed_asksAtMost rest
    rw [List.length_cons, Nat.add_comm]
    refine bind_asksAtMost (lift_asksAtMost (addresses_asksAtMost name _)) fun r => ?_
    cases r with
    | error e => exact later
    | ok found =>
      rw [← Nat.zero_add rest.length]
      exact bind_asksAtMost trivial fun matched => bind_asksAtMost (k := 0) later fun names => trivial

theorem length_firstOf_le {limit : Int} (hl : 0 ≤ limit) (names : List α) : (firstOf limit names).length ≤ limit.toNat := by
  unfold firstOf
  rw [if_pos hl]
  exact List.length_take_le ..

theorem confirmedNames_asksAtMost {limit : Int} (hl : 0 ≤ limit) (address : Address) :
    (confirmedNames purpose limit address).run.AsksAtMost (1 + limit.toNat) := by
  refine bind_asksAtMost (lift_asksAtMost (pointers_asksAtMost _)) fun r => ?_
  cases r with
  | error e => exact Inquiry.asksAtMost_done _
  | ok names => exact (confirmed_asksAtMost _).mono (length_firstOf_le hl names)

theorem query_asksAtMost (strict : Bool) (domain : String) : (Record.query purpose strict domain).run.AsksAtMost 1 :=
  (records_asksAtMost _).bind (k := 0) fun r => by cases r <;> trivial

end

end Dns

/-! ### What is paid for -/

/-- The questions that the lookups may pay for that are still allowed. -/
def Limits.reserve (limits : Limits) (counters : Counters) : Nat := limits.batch * (limits.lookups - counters.lookups).toNat

theorem Limits.reserve_le {limits : Limits} {c c' : Counters} (h : c.GrowTo c') : limits.reserve c' ≤ limits.reserve c :=
  Nat.mul_le_mul_left _ (Int.toNat_le_toNat (Int.sub_le_sub_left h.lookups _))

/-- A lookup that is counted within its ceiling takes a batch out of the reserve. -/
theorem Limits.reserve_lookedUp {limits : Limits} {w : World σ} (h : w.lookedUp.counters.lookups ≤ limits.lookups) :
    limits.reserve w.lookedUp.counters + limits.batch = limits.reserve w.counters := by
  have less : (limits.lookups - w.counters.lookups).toNat = (limits.lookups - w.lookedUp.counters.lookups).toNat + 1 := by
    have : w.lookedUp.counters.lookups = w.counters.lookups + 1 := rfl
    omega
  unfold reserve
  rw [less, Nat.mul_succ]

namespace Evaluation

section
variable {answer : Question → σ → Answer × σ} {context : Context} {w : World σ} {n k : Nat}

/-- The number of charged questions that an evaluation asks. -/
def charges (answer : Question → σ → Answer × σ) (context : Context) (e : Evaluation α) (w : World σ) : Nat :=
  (transcript answer context e w).countP (·.1.isCharged)

theorem charges_bind (e : Evaluation α) (f : α → Evaluation β) :
    charges answer context (e >>= f) w = charges answer context e w +
      match exec answer context e w with
      | (.ok a, w') => charges answer context (f a) w'
      | (.error _, _) => 0 := by
  unfold charges
  rw [transcript_bind, List.countP_append]
  rcases exec answer context e w with ⟨x | a, w'⟩ <;> rfl

theorem charges_entering (reference : Reference) (target : String) (policy : Evaluation Verdict) :
    charges answer context (entering reference target policy) w = charges answer context policy w := by
  unfold charges
  rw [transcript_entering]

/-- The questions of an explanation are not charged. -/
theorem charges_explanation (e : Evaluation α) : charges answer context (askedFor .explanation e) w = 0 := by
  refine List.countP_eq_zero.mpr fun entry hm charged => ?_
  have purpose := (Inquiry.asksOnly_askedFor .explanation (e.inquiry context w.counters)).transcript entry hm
  simp [Question.isCharged, purpose] at charged

theorem charges_countLookup : charges answer context countLookup w = 0 := by
  unfold charges
  rw [transcript_countLookup, List.countP_nil]

theorem charges_countVoidLookup : charges answer context countVoidLookup w = 0 := by
  unfold charges
  rw [transcript_countVoidLookup, List.countP_nil]

theorem charges_ofInquiry_le {i : Inquiry α} (h : i.AsksAtMost n) : charges answer context (ofInquiry i) w ≤ n := by
  unfold charges
  rw [transcript_ofInquiry]
  exact List.countP_le_length.trans (h.length_transcript w.state)

/-! ### Counters -/

theorem soleText_uncounting (target : String) : Uncounting answer context (soleText target) :=
  (uncounting_ofInquiry _).bind fun r => by
    split <;> exact uncounting_pure _

theorem policyTerms_uncounting (domain : String) : Uncounting answer context (policyTerms domain) := fun w => by
  rw [exec_policyTerms]
  split <;> rfl

theorem Uncounting.growTo {e : Evaluation α} (h : Uncounting answer context e) (w : World σ) :
    w.counters.GrowTo (exec answer context e w).2.counters := by
  rw [h w]
  exact .refl _

/-- Nothing that is counted is taken back. -/
theorem Metered.growTo {missable : Bool} {n : ENat} {e : Evaluation α} (h : Metered context.receiver.limits missable n e)
    (w : World σ) : w.counters.GrowTo (exec answer context e w).2.counters := by
  induction h generalizing answer w with
  | pure | throw => exact .refl _
  | reading _ ih => exact ih context rfl w
  | countVoidLookup => exact Composed.countVoidLookup.growTo w
  | counted _ ih => exact growTo_bind (Composed.countLookup.growTo w) fun _ w => ih w
  | addresses => exact (uncounting_ofInquiry _).growTo w
  | mailHosts target _ _ ih => exact growTo_bind ((uncounting_ofInquiry _).growTo w) fun r w => ih _ w
  | names => exact (uncounting_ofInquiry _).growTo w
  | text target => exact (soleText_uncounting target).growTo w
  | terms domain => exact (policyTerms_uncounting domain).growTo w
  | bind _ _ ih ihf => exact growTo_bind (ih w) fun a w => ihf a w
  | entering _ ih =>
    rw [exec_entering]
    exact ih w
  | @explaining _ _ _ e f _ _ _ ihf =>
    -- what is counted for the target of an explanation is the exception, but that is not kept in the first place
    have grown : w.counters.GrowTo
        (exec (fun q => answer { q with purpose := .explanation }) context (uncounted e >>= f) w).2.counters :=
      growTo_bind ((uncounting_uncounted e).growTo w) fun a w => ihf a w
    rw [exec_askedFor, exec_tryCatch]
    generalize exec _ context (uncounted e >>= f) w = r at grown
    obtain ⟨(x | x) | text, w'⟩ := r
    all_goals exact grown
  | dearer _ _ ih => exact ih w

/-! ### What an evaluation pays -/

/-- What is asked is taken out of the reserve, apart from a price. -/
def Paid (answer : Question → σ → Answer × σ) (context : Context) (price : ENat) (e : Evaluation α) : Prop :=
  ∀ w, (charges answer context e w + context.receiver.limits.reserve (exec answer context e w).2.counters : ENat) ≤
    context.receiver.limits.reserve w.counters + price

theorem Paid.bind {p q : ENat} {e : Evaluation α} {f : α → Evaluation β} (h : Paid answer context p e)
    (hf : ∀ a, Paid answer context q (f a)) : Paid answer context (p + q) (e >>= f) := by
  intro w
  have first := h w
  rw [charges_bind, exec_bind]
  rcases hr : exec answer context e w with ⟨x | a, w'⟩ <;> rw [hr] at first
  · exact first.trans (add_le_add_right le_self_add _)
  · have later := hf a w'
    -- what the second part pays with is what the first one has left
    calc ((charges answer context e w + charges answer context (f a) w' : Nat) : ENat) +
          context.receiver.limits.reserve (exec answer context (f a) w').2.counters
      _ = charges answer context e w + (charges answer context (f a) w' +
          context.receiver.limits.reserve (exec answer context (f a) w').2.counters) := by push_cast; rw [add_assoc]
      _ ≤ charges answer context e w + (context.receiver.limits.reserve w'.counters + q) := by gcongr
      _ = charges answer context e w + context.receiver.limits.reserve w'.counters + q := (add_assoc ..).symm
      _ ≤ context.receiver.limits.reserve w.counters + p + q := by gcongr
      _ = context.receiver.limits.reserve w.counters + (p + q) := add_assoc ..

theorem Paid.dearer {p q : ENat} {e : Evaluation α} (h : Paid answer context p e) (hq : p ≤ q) : Paid answer context q e :=
  fun w => (h w).trans (by gcongr)

theorem paid_of_charges_le {e : Evaluation α} (h : ∀ w, charges answer context e w ≤ n)
    (hg : ∀ w : World σ, w.counters.GrowTo (exec answer context e w).2.counters) : Paid answer context n e := fun w => by
  rw [add_comm]
  exact add_le_add (Nat.cast_le.mpr (Limits.reserve_le (hg w))) (Nat.cast_le.mpr (h w))

theorem paid_pure (a : α) : Paid answer context 0 (pure a) :=
  paid_of_charges_le (n := 0) (fun _ => Nat.le_refl 0) fun _ => .refl _

theorem paid_throw (x : Failure) : Paid answer context 0 (throw x : Evaluation α) :=
  paid_of_charges_le (n := 0) (fun _ => Nat.le_refl 0) fun _ => .refl _

theorem paid_ofInquiry {i : Inquiry α} (h : i.AsksAtMost n) : Paid answer context n (ofInquiry i) :=
  paid_of_charges_le (fun _ => charges_ofInquiry_le h) (uncounting_ofInquiry i).growTo

theorem soleText_paid (target : String) : Paid answer context 1 (soleText target) :=
  (paid_ofInquiry (records_asksAtMost _)).bind (q := 0) fun r => by
    split <;> exact paid_pure _

theorem policyTerms_paid (domain : String) : Paid answer context 1 (policyTerms domain) := by
  unfold policyTerms
  cases Domain.isValid domain with
  | false =>
    refine .dearer ?_ zero_le
    exact paid_throw _
  | true =>
    refine (paid_ofInquiry (query_asksAtMost context.receiver.strict domain)).bind (q := 0) fun r => ?_
    cases r with
    | error e => exact paid_throw _
    | ok record =>
      dsimp only
      cases Record.read domain Record.defaultMarker record with
      | error x => exact paid_throw x
      | ok terms => exact paid_pure terms

/-- What is asked behind a lookup that has been counted is paid for. -/
theorem paid_counted {f : Unit → Evaluation α} (h : Paid answer context context.receiver.limits.batch (f ())) :
    Paid answer context 0 (countLookup >>= f) := by
  intro w
  have counted := exec_countLookup answer context w
  by_cases excess : context.receiver.limits.lookups < w.lookedUp.counters.lookups
  · rw [if_pos excess] at counted
    have kept : context.receiver.limits.reserve (exec answer context countLookup w).2.counters ≤ _ :=
      Limits.reserve_le (Composed.countLookup.growTo w)
    rw [charges_bind, exec_bind, charges_countLookup]
    rw [counted] at kept ⊢
    simpa using kept
  · rw [if_neg excess] at counted
    rw [charges_bind, exec_bind, charges_countLookup, counted, add_zero, ← Limits.reserve_lookedUp (Int.not_lt.mp excess), zero_add]
    exact_mod_cast h w.lookedUp

/-- A metered evaluation pays for all that it asks beyond its price. -/
theorem Metered.paid {missable : Bool} {n : ENat} {e : Evaluation α} (h : Metered context.receiver.limits missable n e)
    (hp : 0 ≤ context.receiver.limits.pointers) : Paid answer context n e := by
  induction h with
  | pure a => exact paid_pure a
  | throw => exact paid_throw _
  | reading _ ih => exact fun w => ih context rfl w
  | countVoidLookup => exact paid_of_charges_le (n := 0) (fun _ => charges_countVoidLookup.le) Composed.countVoidLookup.growTo
  | counted _ ih => exact paid_counted ih
  | addresses host family => exact paid_ofInquiry (addresses_asksAtMost host family)
  | mailHosts _ _ _ ih => exact (paid_ofInquiry (records_asksAtMost _)).bind fun r => ih _
  | names address => exact paid_ofInquiry (confirmedNames_asksAtMost hp address)
  | text target => exact soleText_paid target
  | terms domain => exact policyTerms_paid domain
  | bind _ _ ih ihf => exact ih.bind ihf
  | entering _ ih =>
    intro w
    rw [charges_entering, exec_entering]
    exact ih w
  | @explaining missable _ _ _ _ h hf =>
    have explained : Metered context.receiver.limits missable 0 _ := .explaining h hf
    exact paid_of_charges_le (n := 0) (fun _ => (charges_explanation _).le) explained.growTo
  | dearer _ hk ih => exact ih.dearer hk

end

end Evaluation

/-! ### Calls -/

namespace Dns.Client

variable (client : Client)

/-- Of the calls in a run, those that are not for an explanation come from charged questions. -/
theorem calls_run (i : Inquiry α) (s : ClientState) :
    ∃ made, (client.run i s).2.calls = made ++ s.calls ∧
      made.countP (·.question.isCharged) ≤
        (1 + client.options.retries.toNat) * (i.transcript client.answers s).countP (·.1.isCharged) := by
  induction i generalizing s with
  | done a => exact ⟨[], rfl, Nat.zero_le _⟩
  | ask q next ih =>
    obtain ⟨made, hm, few, same⟩ := calls_answer client client.options.retries.toNat q s
    obtain ⟨later, hl, bounded⟩ := ih (client.answers q s).1 (client.answers q s).2
    have step : client.run (.ask q next) s = client.run (next (client.answers q s).1) (client.answers q s).2 := rfl
    refine ⟨later ++ made, ?_, ?_⟩
    · rw [step, hl, hm, List.append_assoc]
    · rw [Inquiry.transcript, List.countP_append, List.countP_cons, Nat.mul_add]
      refine Nat.add_le_add bounded ?_
      cases hq : q.isCharged with
      | true => simpa using List.countP_le_length.trans few
      | false =>
        simp only [Bool.false_eq_true, ↓reduceIte, Nat.mul_zero, Nat.le_zero]
        refine List.countP_eq_zero.mpr fun c hc => ?_
        obtain ⟨passes, asked⟩ := same c hc
        simp [asked, isCharged_renamed, hq]

end Dns.Client

/-! ### Checks -/

/-- The reserve with which a check begins is a batch for every lookup that it may count. -/
theorem Limits.reserve_fresh (limits : Limits) : limits.reserve {} = limits.batch * limits.lookups.toNat := by
  unfold reserve
  rw [show limits.lookups - (0 : Int) = limits.lookups from Int.sub_zero _]

theorem Limits.cast_batch {limits : Limits} (hm : 0 ≤ limits.mailHosts) (hp : 0 ≤ limits.pointers) :
    (limits.batch : Int) = 1 + max limits.mailHosts limits.pointers := by
  unfold batch
  omega

section
variable {receiver : Receiver} {ip domain sender helo : String}

/-- A check asks one charged question, and for every lookup that it may count a batch of them. -/
theorem charged_checkHost (answer : Question → σ → Answer × σ) (s : σ) (hp : 0 ≤ receiver.limits.pointers) :
    ((checkHost receiver ip domain sender helo).transcript answer s).countP (·.1.isCharged) ≤
      receiver.limits.batch * receiver.limits.lookups.toNat + 1 := by
  cases hc : Context.ofText receiver ip sender helo with
  | error f =>
    rw [checkHost_of_error hc]
    exact Nat.zero_le _
  | ok context =>
    obtain ⟨-, rfl⟩ := Context.ofText_ok hc
    rw [transcript_checkHost hc]
    have paid : (charges answer context (policyOf (levelsFrom context.receiver.limits 0) domain true) (.fresh s) +
        context.receiver.limits.reserve _ : ENat) ≤ context.receiver.limits.reserve {} + 1 :=
      (policyOf_metered _ domain true).paid hp (.fresh s)
    rw [Limits.reserve_fresh] at paid
    exact_mod_cast le_self_add.trans paid

/-- Besides the calls for its explanation, one check calls the resolver only a bounded number of times: once and for every
retry, for its own record and, for every lookup that it may count, for one target and for each of the mail hosts or names
of the client that are allowed. -/
theorem calls_checkHost {client : Client} {state : ClientState} (hl : 0 ≤ receiver.limits.lookups)
    (hm : 0 ≤ receiver.limits.mailHosts) (hp : 0 ≤ receiver.limits.pointers) :
    ∃ made, (client.run (checkHost receiver ip domain sender helo) state).2.calls = made ++ state.calls ∧
      (made.countP (·.question.isCharged) : Int) ≤ (1 + max 0 client.options.retries) *
        (1 + receiver.limits.lookups * (1 + max receiver.limits.mailHosts receiver.limits.pointers)) := by
  obtain ⟨made, hmade, few⟩ := client.calls_run (checkHost receiver ip domain sender helo) state
  refine ⟨made, hmade, ?_⟩
  have bounded : made.countP (·.question.isCharged) ≤
      (1 + client.options.retries.toNat) * (receiver.limits.batch * receiver.limits.lookups.toNat + 1) :=
    few.trans (Nat.mul_le_mul_left _ (charged_checkHost client.answers state hp))
  calc (made.countP (·.question.isCharged) : Int)
    _ ≤ ((1 + client.options.retries.toNat) * (receiver.limits.batch * receiver.limits.lookups.toNat + 1) : Nat) := by
      exact_mod_cast bounded
    _ = (1 + max 0 client.options.retries) *
        (1 + receiver.limits.lookups * (1 + max receiver.limits.mailHosts receiver.limits.pointers)) := by
      push_cast
      rw [Limits.cast_batch hm hp, Int.toNat_of_nonneg hl, Int.ofNat_toNat, max_comm client.options.retries,
        Int.mul_comm _ receiver.limits.lookups, Int.add_comm _ 1]

end

/-- Two policies that include each other, the first of them behind a host for which the resolver takes too long. -/
def cyclicZone : Zone :=
  [("example.com", [("TXT", .fixed (.ok [.text "v=spf1 a:slow.example.com include:other.example.com -all"]))]),
   ("other.example.com", [("TXT", .fixed (.ok [.text "v=spf1 include:example.com -all"]))]),
   ("slow.example.com", [("A", .sequence [.error (.lifetimeExpired none), .ok [.text "192.0.2.9"]])])]

/-- The check of such a policy ends, within the bound for two retries and the ceilings of the receiver. -/
theorem calls_cyclicZone :
    ∃ made, ((Client.ofZone cyclicZone).run
        (checkHost { clock := .whole 0 } "192.0.2.5" "example.com" "user@example.com" "") .unasked).2.calls = made ++ [] ∧
      (made.countP (·.question.isCharged) : Int) ≤ (1 + max 0 2) * (1 + 10 * (1 + max 10 10)) :=
  calls_checkHost (by decide) (by decide) (by decide)

end SenderPolicy
