import Mathlib.Data.List.DropRight
import SenderPolicy.Proofs.AddressAnswers
import SenderPolicy.Report.Basic

/-! The cache does not change answers. If the replies of a resolver depend on the name and the type of a question only,
every entry of a cache that has been used with it holds what the resolver would reply to the questions of its key. So
whatever has been asked before, each question gets one answer, and an inquiry comes to the same as with an empty cache. -/

namespace SenderPolicy

open Dns Evaluation Text

variable {σ α β : Type} {P : Question → Prop}

/-! ### Inquiries -/

namespace Dns

theorem Inquiry.AsksOnly.map {i : Inquiry α} (h : i.AsksOnly P) (f : α → β) : (f <$> i).AsksOnly P := h.bind fun _ => trivial

/-- What comes of an inquiry if each question has one answer. -/
def Inquiry.value (reply : Question → Answer) : Inquiry α → α
  | done a => a
  | ask q next => (next (reply q)).value reply

/-- In states with a property, which answers keep, each question has one answer. -/
structure Steady (answer : Question → σ → Answer × σ) (I : σ → Prop) (reply : Question → Answer) : Prop where
  keep : ∀ q s, q.Standard → I s → I (answer q s).2
  answers : ∀ q s, q.Standard → I s → (answer q s).1 = reply q

theorem Steady.run_eq {answer : Question → σ → Answer × σ} {I : σ → Prop} {reply : Question → Answer}
    (h : Steady answer I reply) {i : Inquiry α} (hi : i.AsksOnly Question.Standard) {s : σ}
    (hs : I s) : (i.run answer s).1 = i.value reply := by
  induction i generalizing s with
  | done a => rfl
  | ask q next ih =>
    have later := ih (answer q s).1 (hi.2 _) (h.keep q s hi.1 hs)
    rw [h.answers q s hi.1 hs] at later
    show ((next (answer q s).1).run answer (answer q s).2).1 = _
    rw [h.answers q s hi.1 hs]
    exact later

/-! ### Fixed replies -/

/-- The replies of the resolver depend on the type and on the name less the dots at its end only. -/
def Resolver.Fixed (resolver : Resolver) : Prop :=
  ∀ calls calls' q q', Domain.withoutDots q.name = Domain.withoutDots q'.name → q.type = q'.type →
    resolver calls q = resolver calls' q'

/-- What a resolver with fixed replies answers. -/
def Resolver.answer (resolver : Resolver) (q : Question) : Answer := (resolver [] q).map (readReply q.type)

/-- Under the key of every question, the cache holds the answer of the resolver and nothing else. -/
def Cache.Coherent (resolver : Resolver) (cache : Cache) : Prop :=
  ∀ entry ∈ cache.entries, ∀ q : Question, q.Standard → entry.key = Client.key q → resolver.answer q = .ok entry.records

section
variable {resolver : Resolver}

theorem Resolver.Fixed.answer_eq (hr : resolver.Fixed) {q q' : Question} (hq : q.Standard) (hq' : q'.Standard)
    (h : Client.key q = Client.key q') : resolver.answer q = resolver.answer q' := by
  have type := type_eq_of_key_eq hq hq' h
  unfold Resolver.answer
  rw [hr [] [] q q' (congrArg _ (name_eq_of_key_eq hq hq' h)) type, type]

end

theorem Cache.coherent_of_empty {resolver : Resolver} {cache : Cache} (h : cache.entries = []) : cache.Coherent resolver :=
  fun entry he => by
    rw [h] at he
    cases he

/-- The entry always answers the same. -/
def ZoneEntry.isFixed : ZoneEntry → Bool
  | .fixed _ => true
  | .sequence _ => false

/-- A zone whose entries always answer the same gives fixed replies. -/
theorem fixed_resolver {zone : Zone} (h : ∀ named ∈ zone, ∀ typed ∈ named.2, typed.2.isFixed) : zone.resolver.Fixed := by
  intro calls calls' q q' hn ht
  unfold Zone.resolver
  dsimp only
  rw [hn, ht]
  split
  · rfl
  · rename_i types hl
    split
    · rfl
    · rename_i entry he
      have fixed := h _ (mem_of_lookup hl) _ (mem_of_lookup he)
      cases entry with
      | fixed reply => rfl
      | sequence replies => cases fixed

/-! ### The client -/

namespace Client

section
variable {client : Client} {q : Question} {s s' : ClientState}

/-- The answer is that of the resolver, unless no question can be asked for want of settings. -/
def Genuine (client : Client) (q : Question) (answer : Answer) : Prop :=
  answer.isOk ∨ (∃ settings, client.options.settings = .ok settings) → answer = client.resolver.answer q

theorem holds_genuine_iff {cache : Cache} : cache.Holds client.Genuine ↔ cache.Coherent client.resolver :=
  ⟨fun h entry he q hq hk => (h entry he q hq hk (.inl rfl)).symm, fun h entry he q hq hk _ => (h entry he q hq hk).symm⟩

theorem fits_genuine (hr : client.resolver.Fixed) : client.resolver.Fits client.Genuine where
  reply calls q _ _ := congrArg (Except.map (readReply q.type)) (hr calls [] q q rfl rfl)
  same _ _ _ hq hq' hk h _ := (h (.inl rfl)).trans (hr.answer_eq hq hq' hk)

theorem genuine_unset (q : Question) (cause : NumeralError) (h : client.options.settings = .error cause) :
    client.Genuine q (.error (.badTimeout cause)) := by
  rintro (ok | ⟨settings, hs⟩)
  · cases ok
  · rw [h] at hs
    cases hs

/-- From a coherent cache or by a call, a question gets the answer of the resolver. -/
theorem attempt_coherent (hr : client.resolver.Fixed) (hq : q.Standard) (hs : s.cache.Coherent client.resolver) :
    (client.attempt q s).2.cache.Coherent client.resolver ∧
      ((∃ settings, client.options.settings = .ok settings) → (client.attempt q s).1 = client.resolver.answer q) := by
  obtain ⟨held, genuine⟩ := attempt_fits (fits_genuine hr) genuine_unset hq (holds_genuine_iff.mpr hs)
  exact ⟨holds_genuine_iff.mp held, fun settings => genuine (.inr settings)⟩

theorem answer_coherent (hr : client.resolver.Fixed) (retries : Nat) (hq : q.Standard)
    (hs : s.cache.Coherent client.resolver) : (client.answer retries q s).2.cache.Coherent client.resolver :=
  holds_genuine_iff.mp (answer_fits (fits_genuine hr) genuine_unset retries hq (holds_genuine_iff.mpr hs)).1

/-- What a resolver with fixed replies answers in the end, with some more attempts while its time runs out; each attempt asks
for the normal form of the name of the one before. -/
def settled (client : Client) : (retries : Nat) → Question → Answer
  | 0, q => client.resolver.answer { q with name := Domain.normalized q.name }
  | retries + 1, q =>
    let q := { q with name := Domain.normalized q.name }
    match client.resolver.answer q with
    | .error (.lifetimeExpired _) => client.settled retries q
    | answer => answer

/-- The answer that a client whose resolver has fixed replies gives to a question. -/
def reply (client : Client) (q : Question) : Answer := client.settled client.options.retries.toNat q

theorem answer_settled (hr : client.resolver.Fixed) (ht : ∃ settings, client.options.settings = .ok settings) (retries : Nat)
    {q : Question} (hq : q.Standard) {s : ClientState} (hs : s.cache.Coherent client.resolver) :
    (client.answer retries q s).1 = client.settled retries q := by
  induction retries generalizing q s with
  | zero =>
    rw [answer, settled]
    exact (attempt_coherent hr (hq.renamed (Domain.normalized q.name)) hs).2 ht
  | succ retries ih =>
    obtain ⟨kept, first⟩ := attempt_coherent hr (hq.renamed (Domain.normalized q.name)) hs
    rw [answer, settled]
    rw [← first ht]
    generalize client.attempt { q with name := Domain.normalized q.name } s = r at kept
    obtain ⟨e | records, s'⟩ := r
    · cases e with
      | lifetimeExpired => exact ih (hq.renamed _) kept
      | _ => rfl
    · rfl

/-- A client whose resolver has fixed replies answers each question in one way, as long as its cache holds nothing else. -/
theorem steady (hr : client.resolver.Fixed) (ht : ∃ settings, client.options.settings = .ok settings) :
    Steady client.answers (·.cache.Coherent client.resolver) client.reply :=
  ⟨fun _ _ hq hs => answer_coherent hr _ hq hs, fun _ _ hq hs => answer_settled hr ht _ hq hs⟩

end

end Client

/-- The inquiry asks for records of the standard types only. -/
structure Inquiry.Standard (i : Inquiry α) : Prop where
  asks : i.AsksOnly Question.Standard

/-- What comes of a client's state by earlier runs: the resolver stays, but in each run the options, the time and the use of
the cache may be others. -/
inductive ClientState.Worked (resolver : Resolver) : ClientState → Prop
  | fresh {s : ClientState} (h : s.cache.entries = []) : Worked resolver s
  | run {s : ClientState} (h : Worked resolver s) {client : Client} (hc : client.resolver = resolver) {α : Type}
      {i : Inquiry α} (hi : i.Standard) : Worked resolver (client.run i s).2

/-- Earlier runs leave a coherent cache. -/
theorem ClientState.Worked.coherent {resolver : Resolver} {s : ClientState} (h : s.Worked resolver) (hr : resolver.Fixed) :
    s.cache.Coherent resolver := by
  induction h with
  | fresh h => exact Cache.coherent_of_empty h
  | run _ hc hi ih =>
    subst hc
    exact hi.asks.run_inv (I := fun s : ClientState => s.cache.Coherent _) (fun q s hq hs => Client.answer_coherent hr _ hq hs) ih

/-- Coherent caches make no difference to inquiries. -/
theorem Inquiry.Standard.run_coherent {client : Client} (hr : client.resolver.Fixed)
    (ht : ∃ settings, client.options.settings = .ok settings) {i : Inquiry α} (hi : i.Standard) {s s' : ClientState}
    (hs : s.cache.Coherent client.resolver) (hs' : s'.cache.Coherent client.resolver) :
    (client.run i s).1 = (client.run i s').1 := by
  have steady := Client.steady hr ht
  exact (steady.run_eq hi.asks hs).trans (steady.run_eq hi.asks hs').symm

end Dns

/-! ### Checks -/

section
variable {receiver : Receiver} {ip domain sender envelope helo : String}

theorem checkHost_standard : (checkHost receiver ip domain sender helo).Standard := by
  unfold checkHost
  cases Context.ofText receiver ip sender helo with
  | error f => exact ⟨trivial⟩
  | ok context =>
    have asked : (Evaluation.inquiry (checkedPolicy domain) context {}).AsksOnly Question.Standard :=
      policyOf_asksOnly _ domain true context {}
    exact ⟨(asked.map _).map _⟩

theorem checkSender_eq {sender domain : String} (h : senderOf envelope (trimmed helo) = (sender, domain)) :
    checkSender receiver ip envelope helo =
      if Domain.isValid domain then checkHost receiver ip domain sender (trimmed helo)
      else .done (.ok ⟨.none, s!"Invalid domain: {Domain.shown domain}"⟩) := by
  unfold checkSender
  simp only [h]

theorem checkSender_standard : (checkSender receiver ip envelope helo).Standard := by
  cases h : senderOf envelope (trimmed helo) with
  | mk sender domain =>
    rw [checkSender_eq h]
    split
    · exact checkHost_standard
    · exact ⟨trivial⟩

theorem checkHelo_standard : (checkHelo receiver ip helo).Standard := by
  unfold checkHelo
  dsimp only
  split
  · exact checkHost_standard
  · exact ⟨trivial⟩

end

/-! ### Reports -/

theorem stripped_stripped (p : Char → Bool) (s : List Char) : stripped p (stripped p s) = stripped p s := by
  -- what is left begins as it did before the end was cut off, so nothing more is cut off its beginning
  have front : (stripped p s).dropWhile p = stripped p s := by
    rw [List.dropWhile_eq_self_iff]
    intro hl
    have same := (List.rdropWhile_prefix p (s.dropWhile p)).getElem hl
    have first := List.dropWhile_get_zero_not p s (by
      have := (List.rdropWhile_prefix p (s.dropWhile p)).length_le
      exact Nat.lt_of_lt_of_le hl this)
    rw [List.get_eq_getElem, ← same] at first
    exact first
  show dropTrailing p ((stripped p s).dropWhile p) = _
  rw [front]
  exact List.rdropWhile_idempotent p _

theorem trimmed_trimmed (s : String) : trimmed (trimmed s) = trimmed s := by
  unfold trimmed
  rw [String.toList_ofList, stripped_stripped]

theorem checkSender_trimmed (receiver : Receiver) (ip envelope helo : String) :
    checkSender receiver ip envelope (trimmed helo) = checkSender receiver ip envelope helo := by
  unfold checkSender
  simp only [trimmed_trimmed]

theorem checkHelo_trimmed (receiver : Receiver) (ip helo : String) :
    checkHelo receiver ip (trimmed helo) = checkHelo receiver ip helo := by
  unfold checkHelo
  simp only [trimmed_trimmed]

namespace Report

/-- The report that verdicts on the identities of a delivery give, the second one only if asked for. -/
def assembled (receiver : Receiver) (delivery : Delivery) (withHelo : Bool) (mailfrom helo : Except Fault Verdict) :
    Except Fault Report := do
  let delivery := { delivery with helo := trimmed delivery.helo }
  let mailfrom := ofVerdict receiver delivery .mailfrom (senderOf delivery.envelope delivery.helo).2 (← mailfrom)
  let helo ← if withHelo then do pure (some (ofVerdict receiver delivery .helo delivery.helo (← helo))) else pure none
  pure ⟨delivery.ip, delivery.envelope, delivery.helo, mailfrom, helo⟩

/-- The report is assembled from one check after the other. -/
theorem run_inquiry (answer : Question → σ → Answer × σ) (receiver : Receiver) (delivery : Delivery) (withHelo : Bool) (s : σ) :
    ((inquiry receiver delivery withHelo).run answer s).1 =
      let sent := (checkSender receiver delivery.ip delivery.envelope delivery.helo).run answer s
      assembled receiver delivery withHelo sent.1 ((checkHelo receiver delivery.ip delivery.helo).run answer sent.2).1 := by
  unfold inquiry assembled
  dsimp only
  rw [run_bind_exceptT, checkSender_trimmed, checkHelo_trimmed]
  generalize checkSender receiver delivery.ip delivery.envelope delivery.helo = sent
  generalize checkHelo receiver delivery.ip delivery.helo = greeted
  generalize (senderOf delivery.envelope (trimmed delivery.helo)).2 = domain
  generalize trimmed delivery.helo = helo
  rw [ExceptT.run_mk]
  rcases sent.run answer s with ⟨f | verdict, s'⟩
  · rfl
  · cases withHelo with
    | false => rfl
    | true =>
      dsimp only
      simp only [↓reduceIte]
      rw [run_bind_exceptT, ExceptT.run_mk]
      rcases greeted.run answer s' with ⟨f | verdict, s''⟩ <;> rfl

end Report

/-! ### The history of a cache -/

section
variable {client : Client} (hr : client.resolver.Fixed) (ht : ∃ settings, client.options.settings = .ok settings)
  {worked fresh : ClientState} (hw : worked.Worked client.resolver) (hf : fresh.cache.entries = [])
include hr ht hw hf

theorem Dns.Inquiry.Standard.run_worked {i : Inquiry α} (hi : i.Standard) :
    (client.run i worked).1 = (client.run i fresh).1 :=
  hi.run_coherent hr ht (hw.coherent hr) (Cache.coherent_of_empty hf)

/-- If the replies of the resolver depend on the type and the name of a question only, and the time to wait for them is a
number, no earlier runs change the outcome of a check: it is the same as with an empty cache, and a report is assembled from
what its checks come to by themselves. -/
theorem runs_eq_of_worked (receiver : Receiver) :
    (∀ ip domain sender helo, (client.run (checkHost receiver ip domain sender helo) worked).1 =
      (client.run (checkHost receiver ip domain sender helo) fresh).1) ∧
    (∀ ip envelope helo, (client.run (checkSender receiver ip envelope helo) worked).1 =
      (client.run (checkSender receiver ip envelope helo) fresh).1) ∧
    (∀ ip helo, (client.run (checkHelo receiver ip helo) worked).1 = (client.run (checkHelo receiver ip helo) fresh).1) ∧
    ∀ delivery withHelo, (client.run (Report.inquiry receiver delivery withHelo) worked).1 =
      Report.assembled receiver delivery withHelo
        (client.run (checkSender receiver delivery.ip delivery.envelope delivery.helo) fresh).1
        (client.run (checkHelo receiver delivery.ip delivery.helo) fresh).1 := by
  refine ⟨fun _ _ _ _ => checkHost_standard.run_worked hr ht hw hf, fun _ _ _ => checkSender_standard.run_worked hr ht hw hf,
    fun _ _ => checkHelo_standard.run_worked hr ht hw hf, fun delivery withHelo => ?_⟩
  rw [← checkSender_standard.run_worked hr ht hw hf,
    ← checkHelo_standard.run_worked hr ht (hw.run rfl checkSender_standard) hf]
  exact Report.run_inquiry client.answers receiver delivery withHelo worked

end

/-- A zone that always answers the same. -/
def steadyZone : Zone :=
  [("example.com", [("TXT", .fixed (.ok [.text "v=spf1 mx include:other.example.com ~all"])),
      ("MX", .fixed (.ok [.text "10 mail.example.com."]))]),
   ("mail.example.com", [("A", .fixed (.ok [.text "192.0.2.9"]))]),
   ("other.example.com", [("TXT", .fixed (.ok [.text "v=spf1 ip4:192.0.2.0/28 -all"]))])]

/-- After a check has filled the cache, another one comes to what it does with an empty cache. -/
theorem runs_steadyZone :
    ((Client.ofZone steadyZone).run (checkHost { clock := .whole 0 } "192.0.2.5" "example.com" "user@example.com" "")
        .unasked).2.cache.entries ≠ [] ∧
      ((Client.ofZone steadyZone).run (checkHost { clock := .whole 9 } "192.0.2.77" "other.example.com" "a@example.com" "")
        ((Client.ofZone steadyZone).run (checkHost { clock := .whole 0 } "192.0.2.5" "example.com" "user@example.com" "")
          .unasked).2).1 =
      ((Client.ofZone steadyZone).run (checkHost { clock := .whole 9 } "192.0.2.77" "other.example.com" "a@example.com" "")
        .unasked).1 :=
  ⟨by decide +kernel,
    (runs_eq_of_worked (fixed_resolver (by decide)) ⟨_, rfl⟩ (.run (.fresh rfl) rfl checkHost_standard) rfl _).1 _ _ _ _⟩

end SenderPolicy
