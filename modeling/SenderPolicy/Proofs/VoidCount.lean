import SenderPolicy.Proofs.CallBound
import SenderPolicy.Proofs.Itemized
import SenderPolicy.Proofs.SortedOrder

/-! What a check counts as having found nothing. Every question that tests a mechanism and is answered by the lack of the
name or of records is counted once, in every policy of the run, and with a single exception nothing else is: a domain may
say by a mail record that it takes no mail, and that record is counted as if there were none. -/

namespace SenderPolicy

open Dns Evaluation

variable {σ α β γ : Type}

/-! ### Entries of transcripts -/

namespace Dns

/-- The answer tells that there is no such name, or that it has no records. -/
def Answer.isVoid : Answer → Bool
  | .error e => e == .noSuchName || e == .noAnswer
  | .ok records => records.isEmpty

/-- A question that tests a mechanism has been asked in vain. -/
def isVain (entry : Question × Answer) : Bool := entry.1.purpose == .mechanism && Answer.isVoid entry.2

/-- A question that tests a mechanism has found the single mail record of a domain that takes no mail. -/
def isRefusal (entry : Question × Answer) : Bool :=
  entry.1.purpose == .mechanism && entry.1.type == .mx && entry.2 == .ok ["0 "]

/-- The number of questions that are counted as having found nothing. -/
def voids (entries : List (Question × Answer)) : Nat := entries.countP isVain + entries.countP isRefusal

theorem voids_append (entries more : List (Question × Answer)) : voids (entries ++ more) = voids entries + voids more := by
  unfold voids
  rw [List.countP_append, List.countP_append]
  omega

theorem voids_of_aside {entries : List (Question × Answer)} (h : ∀ entry ∈ entries, Question.Aside entry.1) :
    voids entries = 0 := by
  have aside : ∀ entry ∈ entries, (entry.1.purpose == .mechanism) = false := fun entry hm => by simp [(h entry hm).purpose]
  unfold voids
  rw [List.countP_eq_zero.mpr fun entry hm => by simp [isVain, aside entry hm],
    List.countP_eq_zero.mpr fun entry hm => by simp [isRefusal, aside entry hm]]

theorem voids_eq_countP_iff {entries : List (Question × Answer)} :
    voids entries = entries.countP isVain ↔ ∀ entry ∈ entries, isRefusal entry = false := by
  unfold voids
  rw [Nat.add_eq_left, List.countP_eq_zero]
  simp only [Bool.not_eq_true]

/-! ### Lookups that find nothing -/

/-- A lookup that comes to this is counted as having found nothing. -/
def findsNothing : Except LookupError (List γ) → Bool
  | .error e => e == .noSuchDomain
  | .ok found => found.isEmpty

theorem isEmpty_sorted (le : γ → γ → Bool) (xs : List γ) : (sorted le xs).isEmpty = xs.isEmpty := by
  rw [Bool.eq_iff_iff, List.isEmpty_iff, List.isEmpty_iff]
  constructor
  · intro h
    exact List.nil_perm.mp (h ▸ sorted_perm le xs)
  · rintro rfl
    rfl

/-- Records that read as mail hosts name none only if there are none, or for a domain that takes no mail. -/
theorem readMailHosts_isVoid (texts : List String) :
    findsNothing (readMailHosts texts) = (texts.isEmpty || texts == ["0 "]) := by
  cases hr : readMailHosts texts with
  | error e =>
    have unreadable : texts ≠ [] ∧ texts ≠ ["0 "] := by
      constructor <;> rintro rfl <;> cases hr
    show (e == .noSuchDomain) = _
    rw [beq_eq_false_iff_ne.mpr (readMailHosts_error_ne hr)]
    simp [unreadable]
  | ok hosts =>
    unfold readMailHosts at hr
    split at hr
    · cases hr
      simp [findsNothing, *]
    · rename_i hn
      cases hf : texts.mapM MailHost.ofText with
      | error e =>
        rw [hf] at hr
        cases hr
      | ok found =>
        rw [hf] at hr
        cases hr
        have same : found.length = texts.length := (mapM_ok_iff.mp hf).length_eq.symm
        show (sorted MailHost.le found).isEmpty = _
        rw [isEmpty_sorted, Bool.eq_iff_iff]
        simp [hn, ← List.length_eq_zero_iff, same]

end Dns

namespace Evaluation

section
variable {answer : Question → σ → Answer × σ} {context : Context} {w : World σ}

/-- What is counted as having found nothing is what the evaluation has asked in vain. -/
def Accounted (answer : Question → σ → Answer × σ) (context : Context) (e : Evaluation α) : Prop :=
  ∀ w, (exec answer context e w).2.counters.voidLookups =
    w.counters.voidLookups + voids (transcript answer context e w)

theorem Accounted.bind {e : Evaluation α} {f : α → Evaluation β} (h : Accounted answer context e)
    (hf : ∀ a, Accounted answer context (f a)) : Accounted answer context (e >>= f) := by
  intro w
  have first := h w
  rw [exec_bind, transcript_bind, voids_append]
  generalize exec answer context e w = r at first ⊢
  obtain ⟨x | a, w'⟩ := r
  · exact first
  · dsimp only at first ⊢
    rw [hf a w', first, Int.natCast_add, add_assoc]

/-- What tests no mechanism and counts nothing is accounted for. -/
theorem accounted_of_aside {e : Evaluation α} (h : AsksOnly Question.Aside e) (hu : Uncounting answer context e) :
    Accounted answer context e := fun w => by
  rw [hu w, transcript, voids_of_aside (h context w.counters).transcript]
  exact (add_zero _).symm

theorem accounted_countLookup : Accounted answer context countLookup := fun w => by
  rw [exec_countLookup, transcript_countLookup]
  exact (add_zero _).symm

theorem voidLookups_countVoidLookup (found : List γ) :
    (exec answer context (countVoidLookup >>= fun _ => pure found) w).2.counters.voidLookups =
      w.counters.voidLookups + 1 := by
  have counted := exec_countVoidLookup answer context w
  by_cases excess : context.receiver.limits.voidLookups < w.foundNothing.counters.voidLookups
  · rw [if_pos excess] at counted
    rw [exec_bind_of_error counted]
    rfl
  · rw [if_neg excess] at counted
    rw [exec_bind_of_ok counted]
    rfl

/-- A lookup that comes to nothing is counted once, beyond the ceiling too. -/
theorem voidLookups_tallied (name : String) (r : Except LookupError (List γ)) :
    (exec answer context (tallied name r) w).2.counters.voidLookups =
      w.counters.voidLookups + if findsNothing r then 1 else 0 := by
  rcases r with e | found
  · cases e with
    | noSuchDomain => exact voidLookups_countVoidLookup []
    | _ => exact (add_zero _).symm
  · cases found with
    | nil => exact voidLookups_countVoidLookup []
    | cons text rest => exact (add_zero _).symm

theorem transcript_tallied (name : String) (r : Except LookupError (List γ)) :
    transcript answer context (tallied name r) w = [] := by
  have silent : ∀ found : List γ, transcript answer context (countVoidLookup >>= fun _ => pure found) w = [] := fun found => by
    rw [transcript_bind, transcript_countVoidLookup]
    split <;> rfl
  rcases r with e | found
  · cases e with
    | noSuchDomain => exact silent []
    | _ => rfl
  · cases found with
    | nil => exact silent []
    | cons text rest => rfl

/-- A lookup and the counting of what it has not found are accounted for if it comes to nothing just when its answer is
counted. -/
theorem accounted_tallied {q : Question} (parse : Except LookupError (List String) → Except LookupError (List γ))
    (h : ∀ reply, (if findsNothing (parse (foundRecords reply)) then 1 else 0) = voids [(q, reply)]) (name : String) :
    Accounted answer context (attempt (records q) >>= fun r => tallied name (parse r)) := by
  intro w
  have found : exec answer context (attempt (records q)) w =
      (.ok (foundRecords (answer q w.state).1), ⟨w.counters, (answer q w.state).2⟩) := by
    unfold attempt
    rw [exec_ofInquiry, run_records]
  rw [exec_bind_of_ok found, voidLookups_tallied, transcript_bind, transcript_records, found]
  dsimp only
  rw [transcript_tallied, List.append_nil, ← h]
  split <;> rfl

theorem accounted_addresses (host : String) (family : Family) :
    Accounted answer context (attempt (records ⟨host, addressType family, .mechanism⟩) >>= fun r =>
      tallied host (r.map (sorted textLE))) := by
  have unmail : (addressType family == .mx) = false := by cases family <;> rfl
  refine accounted_tallied (Except.map (sorted textLE)) (fun reply => ?_) host
  rcases reply with e | texts
  · cases e <;> simp [voids, isVain, isRefusal, Answer.isVoid, foundRecords, findsNothing, Except.map,
      LookupError.ofResolver, ResolverError.isTemporary, sorted]
  · simp [voids, isVain, isRefusal, unmail, Answer.isVoid, foundRecords, findsNothing, Except.map,
      isEmpty_sorted]

theorem accounted_mailHosts (target : String) :
    Accounted answer context (attempt (records ⟨target, .mx, .mechanism⟩) >>= fun r =>
      tallied target (r.bind readMailHosts)) := by
  refine accounted_tallied (fun r => r.bind readMailHosts) (fun reply => ?_) target
  rcases reply with e | texts
  · cases e <;> rfl
  · show (if findsNothing (readMailHosts texts) then 1 else 0) = _
    rw [readMailHosts_isVoid]
    by_cases he : texts = []
    · subst he
      rfl
    · simp [voids, isVain, isRefusal, Answer.isVoid, he]

/-! ### Questions that test no mechanism -/

theorem policyTerms_aside (domain : String) : AsksOnly Question.Aside (policyTerms domain) := by
  have asked : ∀ strict, AsksOnly Question.Aside (ofInquiry (Record.query .policy strict domain).run) := fun _ =>
    .ofInquiry (query_asksOnly fun _ => ⟨fun _ => nofun, nofun⟩)
  unfold policyTerms
  cases Domain.isValid domain with
  | false => exact .throw _
  | true =>
    refine fun context => ((asked context.receiver.strict).bind fun r => ?_) context
    cases r with
    | error e => exact .throw _
    | ok record =>
      dsimp only
      cases Record.read domain Record.defaultMarker record with
      | error x => exact .throw x
      | ok terms => exact .pure terms

/-- What tests no mechanism by a lookup asks for other purposes only. -/
theorem Itemized.aside {reads : Bool} {e : Evaluation α} (h : Itemized reads false e) : AsksOnly Question.Aside e := by
  generalize ht : false = tests at h
  induction h with
  | pure a => exact .pure a
  | throw x => exact .throw x
  | reading _ _ ih => exact fun context counters => ih context ht context counters
  | countLookup => exact .countLookup
  | ask h => exact .ofInquiry h
  | addresses => cases ht
  | mailHosts => cases ht
  | terms domain => exact policyTerms_aside domain
  | bind _ _ ih ihf => exact (ih ht).bind fun a => ihf a ht
  | entering _ ih => exact entering_asksOnly (ih ht)
  | explaining m domain => exact explanation_asksOnly m domain

/-! ### Accounts -/

/-- An itemized evaluation counts what it has asked in vain, and nothing else. -/
theorem Itemized.accounted {reads tests : Bool} {e : Evaluation α} (h : Itemized reads tests e) : Accounted answer context e := by
  induction h with
  | pure a => exact accounted_of_aside (.pure a) (uncounting_pure a)
  | throw x => exact accounted_of_aside (.throw x) (uncounting_throw x)
  | reading _ _ ih => exact ih context
  | countLookup => exact accounted_countLookup
  | ask h => exact accounted_of_aside (.ofInquiry h) (uncounting_ofInquiry _)
  | addresses host family => exact accounted_addresses host family
  | mailHosts target => exact accounted_mailHosts target
  | terms domain => exact accounted_of_aside (policyTerms_aside domain) (policyTerms_uncounting domain)
  | bind _ _ ih ihf => exact ih.bind ihf
  | entering _ ih =>
    intro w
    rw [exec_entering, transcript_entering]
    exact ih w
  | explaining m domain => exact accounted_of_aside (explanation_asksOnly m domain) (explanation_uncounting m domain)

end

end Evaluation

/-! ### Checks -/

section
variable {client : Client} {state : ClientState} {receiver : Receiver} {ip domain sender helo : String} {context : Context}

/-- A check has counted as having found nothing what it has asked in vain, apart from refusals of mail, which are counted
with it; so its count is exact if and only if no domain that it asks for its mail hosts takes no mail. The same holds of
the test of every directive, at any depth, and only hosts, mail hosts and existence are asked for. -/
theorem voidLookups_checkHost (h : Context.ofText receiver ip sender helo = .ok context) :
    let asked := (checkHost receiver ip domain sender helo).transcript client.answers state
    let counted := (client.run (context.check domain) state).1.counters.voidLookups
    counted = asked.countP isVain + asked.countP isRefusal ∧
    (counted = asked.countP isVain ↔ ∀ entry ∈ asked, isRefusal entry = false) ∧
    ∀ (v : Visit ClientState) (d : Directive) (w : World ClientState),
      (Evaluation.exec client.answers context (v.test d) w).2.counters.voidLookups =
        w.counters.voidLookups + voids (transcript client.answers context (v.test d) w) ∧
      (d.mechanism ∉ [.a, .mx, .exists, .incl] →
        ∀ entry ∈ transcript client.answers context (v.test d) w, entry.1.purpose ≠ .mechanism) := by
  dsimp only
  have accounted : (client.run (context.check domain) state).1.counters.voidLookups =
      voids ((checkHost receiver ip domain sender helo).transcript client.answers state) := by
    unfold Client.run
    rw [Context.check_eq_exec, transcript_checkHost h]
    dsimp only
    rw [Outcome.counters_ofResult]
    exact ((policyOf_itemized _ domain true).accounted (.fresh state)).trans (zero_add _)
  rw [accounted]
  refine ⟨Int.natCast_add .., ?_, fun v d w => ⟨?_, fun hd entry hm => ?_⟩⟩
  · rw [Int.natCast_inj]
    exact voids_eq_countP_iff
  · exact (matchesClient_itemized (fun target => policyOf_itemized _ target false) d v.domain).accounted w
  · simp only [List.mem_cons, List.not_mem_nil, or_false, not_or] at hd
    have untested : Itemized true false (v.test d) := matchesClient_itemized_of_ne hd.2.2.2
      (fun ht => absurd ht (by simp [hd])) v.domain
    exact ((untested.aside context w.counters).transcript entry hm).purpose

end

/-- A zone in which an included policy asks for a mail host without addresses, and the policy itself for a name that does
not exist, before a host is found. -/
def emptyHandedZone : Zone :=
  [("example.com", [("TXT", .fixed (.ok [.text "v=spf1 include:mail.example.com exists:gone.example.com a -all"])),
     ("A", .fixed (.ok [.text "192.0.2.5"]))]),
   ("mail.example.com", [("TXT", .fixed (.ok [.text "v=spf1 mx ?all"])), ("MX", .fixed (.ok [.text "10 bare.example.com."]))]),
   ("bare.example.com", [("TXT", .fixed (.ok [.text "no addresses"]))])]

theorem voidLookups_emptyHandedZone :
    ∃ context, Context.ofText { clock := .whole 0 } "192.0.2.5" "user@example.com" "" = .ok context ∧
      let asked := (checkHost { clock := .whole 0 } "192.0.2.5" "example.com" "user@example.com" "").transcript
        (Client.ofZone emptyHandedZone).answers .unasked
      asked.countP isVain = 2 ∧
      ((Client.ofZone emptyHandedZone).run (context.check "example.com") .unasked).1.counters.voidLookups =
        asked.countP isVain := by
  have asked :
      let asked := (checkHost { clock := .whole 0 } "192.0.2.5" "example.com" "user@example.com" "").transcript
        (Client.ofZone emptyHandedZone).answers .unasked
      asked.countP isVain = 2 ∧ ∀ entry ∈ asked, isRefusal entry = false := by decide +kernel
  exact ⟨_, rfl, asked.1, (voidLookups_checkHost rfl).2.1.mpr asked.2⟩

/-- A zone whose policy names three domains that take no mail. -/
def refusingZone : Zone :=
  [("example.com", [("TXT", .fixed (.ok [.text "v=spf1 mx:a.example.com mx:b.example.com mx:c.example.com -all"]))]),
   ("a.example.com", [("MX", .fixed (.ok [.text "0 ."]))]),
   ("b.example.com", [("MX", .fixed (.ok [.text "0 ."]))]),
   ("c.example.com", [("MX", .fixed (.ok [.text "0 ."]))])]

/-- All of them have answered by a record, and yet they are too many that have found nothing. -/
theorem voidLookups_refusingZone :
    ∃ context, Context.ofText { clock := .whole 0 } "192.0.2.5" "user@example.com" "" = .ok context ∧
      (∀ entry ∈ (checkHost { clock := .whole 0 } "192.0.2.5" "example.com" "user@example.com" "").transcript
        (Client.ofZone refusingZone).answers .unasked, Answer.isVoid entry.2 = false) ∧
      ((Client.ofZone refusingZone).run (context.check "example.com") .unasked).1.counters.voidLookups = 3 ∧
      ((Client.ofZone refusingZone).run (checkHost { clock := .whole 0 } "192.0.2.5" "example.com" "user@example.com" "")
        .unasked).1.map (·.result) = .ok .permerror :=
  ⟨_, rfl, by decide +kernel⟩

end SenderPolicy
