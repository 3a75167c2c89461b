import SenderPolicy.Dns.Zone
import SenderPolicy.Proofs.CacheEntries
import SenderPolicy.Proofs.Pieces
import SenderPolicy.Proofs.Visit

/-! Answers that hold addresses. If a resolver gives texts of addresses as address records, so does the client,
as long as its cache holds nothing else under the keys of such questions; and then no lookup for addresses meets
a text that is none. -/

namespace SenderPolicy

open Dns Evaluation Text

variable {σ α β : Type}

namespace Dns

/-- The question is for addresses. -/
def Question.ForAddresses (q : Question) : Prop := q.type = .a ∨ q.type = .aaaa

/-- All texts write addresses. -/
def AllAddresses (texts : List String) : Prop := ∀ text ∈ texts, (Address.ofText? text).isSome

/-- While a property of the state holds, answers to questions for addresses hold nothing else, and answers keep
the property. -/
structure Truthful (answer : Question → σ → Answer × σ) (I : σ → Prop) : Prop where
  keep : ∀ q s, q.Standard → I s → I (answer q s).2
  addresses : ∀ q s texts, q.ForAddresses → I s → (answer q s).1 = .ok texts → AllAddresses texts

theorem Truthful.askedFor {answer : Question → σ → Answer × σ} {I : σ → Prop} (h : Truthful answer I) (purpose : Purpose) :
    Truthful (fun q => answer { q with purpose }) I :=
  ⟨fun _ s hq => h.keep _ s hq, fun _ s texts hq => h.addresses _ s texts hq⟩

theorem forAddresses_addressType (family : Family) (name : String) (purpose : Purpose) :
    Question.ForAddresses ⟨name, addressType family, purpose⟩ := by
  cases family
  · exact .inl rfl
  · exact .inr rfl

/-! ### The cache -/

/-- The resolver gives texts of addresses, and nothing else, as address records. -/
def Resolver.GivesAddresses (resolver : Resolver) : Prop :=
  ∀ calls q records, q.ForAddresses → resolver calls q = .ok records → AllAddresses (records.map (·.data))

/-- Under the keys of questions for addresses, the cache holds nothing else. -/
def Cache.HoldsAddresses (cache : Cache) : Prop :=
  ∀ entry ∈ cache.entries, ∀ q : Question, q.ForAddresses → entry.key = Client.key q → AllAddresses entry.records

theorem Question.ForAddresses.standard {q : Question} (h : q.ForAddresses) : q.Standard := by
  intro name
  rcases h with h | h <;> simp [h]

/-- An answer to a question for addresses holds nothing else. -/
def Question.Addressed (q : Question) (answer : Answer) : Prop :=
  q.ForAddresses → ∀ texts, answer = .ok texts → AllAddresses texts

theorem Cache.holdsAddresses_iff {cache : Cache} : cache.HoldsAddresses ↔ cache.Holds Question.Addressed :=
  ⟨fun h entry he q _ hk ha _ ht => Except.ok.inj ht ▸ h entry he q ha hk,
    fun h entry he q ha hk => h entry he q ha.standard hk ha _ rfl⟩

/-! ### Zones -/

/-- All records that an entry may give. -/
def ZoneEntry.records : ZoneEntry → List ResourceRecord
  | .fixed reply => reply.toOption.getD []
  | .sequence replies => replies.flatMap fun reply => reply.toOption.getD []

theorem mem_records {entry : ZoneEntry} {times : Nat} {given : List ResourceRecord}
    (h : Zone.ZoneEntry.reply times entry = .ok given) {record : ResourceRecord} (hm : record ∈ given) :
    record ∈ entry.records := by
  cases entry with
  | fixed reply =>
    cases h
    exact hm
  | sequence replies =>
    unfold Zone.ZoneEntry.reply at h
    dsimp only at h
    cases hr : replies[min times (replies.length - 1)]? with
    | none =>
      rw [hr] at h
      cases h
    | some reply =>
      rw [hr] at h
      cases h
      exact List.mem_flatMap.mpr ⟨_, List.mem_of_getElem? hr, hm⟩

/-- What a zone gives, it holds for a name and the type of the question. -/
theorem exists_of_resolver {zone : Zone} {calls : List Call} {q : Question} {given : List ResourceRecord}
    (h : zone.resolver calls q = .ok given) :
    ∃ named ∈ zone, ∃ typed ∈ named.2, typed.1 = q.type.text ∧ ∀ record ∈ given, record ∈ typed.2.records := by
  unfold Zone.resolver at h
  dsimp only at h
  split at h
  · cases h
  · rename_i types ht
    split at h
    · cases h
    · rename_i entry he
      exact ⟨_, mem_of_lookup ht, _, mem_of_lookup he, rfl, fun record hr => mem_records h hr⟩

/-- A zone that holds nothing but addresses for the address types gives addresses. -/
theorem givesAddresses_resolver {zone : Zone}
    (h : ∀ named ∈ zone, ∀ typed ∈ named.2, typed.1 ∈ ["A", "AAAA"] →
      ∀ record ∈ typed.2.records, (Address.ofText? record.data).isSome) : zone.resolver.GivesAddresses := by
  intro calls q given hq hg text hm
  obtain ⟨record, hr, rfl⟩ := List.mem_map.mp hm
  obtain ⟨named, hn, typed, ht, htype, held⟩ := exists_of_resolver hg
  refine h named hn typed ht ?_ record (held record hr)
  rcases hq with hq | hq <;> simp [htype, hq, RecordType.text]

/-! ### The client -/

namespace Client

variable {client : Client}

theorem readReply_allAddresses {q : Question} (hq : q.ForAddresses) {records : List ResourceRecord}
    (h : AllAddresses (records.map (·.data))) : AllAddresses (readReply q.type records) := by
  unfold readReply
  rw [if_neg (by rcases hq with h | h <;> simp [h])]
  exact h

theorem fits_addressed (hr : client.resolver.GivesAddresses) : client.resolver.Fits Question.Addressed where
  reply calls q hq ha texts ht := by
    cases hg : client.resolver calls q with
    | error e =>
      rw [hg] at ht
      cases ht
    | ok given =>
      rw [hg] at ht
      exact Except.ok.inj ht ▸ readReply_allAddresses ha (hr calls q given ha hg)
  same q q' records hq hq' hk h ha := by
    -- a question that is not for addresses has another key
    have type := type_eq_of_key_eq hq hq' hk
    exact h (by unfold Question.ForAddresses at ha ⊢; rwa [type])

theorem answers_truthful (hr : client.resolver.GivesAddresses) : Truthful client.answers (·.cache.HoldsAddresses) := by
  have fits {q : Question} {s : ClientState} (hq : q.Standard) (hs : s.cache.HoldsAddresses) :=
    answer_fits (fits_addressed hr) (fun _ _ _ _ _ => nofun) client.options.retries.toNat hq (Cache.holdsAddresses_iff.mp hs)
  refine ⟨fun q s hq hs => Cache.holdsAddresses_iff.mpr (fits hq hs).1, fun q s texts ha hs ht => ?_⟩
  obtain ⟨name, addressed⟩ := (fits ha.standard hs).2
  exact addressed ha texts ht

end Client

/-! ### Lookups for addresses -/

section
variable {answer : Question → σ → Answer × σ} {I : σ → Prop} {s : σ} {ε : Type}

theorem run_bind_exceptT (e : ExceptT ε Inquiry α) (f : α → ExceptT ε Inquiry β) :
    (e >>= f).run.run answer s = match e.run.run answer s with
      | (.ok a, s') => (f a).run.run answer s'
      | (.error x, s') => (.error x, s') := by
  show (e.run.bind _).run answer s = _
  rw [Inquiry.run_bind]
  rcases e.run.run answer s with ⟨x | a, s'⟩ <;> rfl

theorem run_lift_exceptT (i : Inquiry α) :
    (ExceptT.lift i : ExceptT ε Inquiry α).run.run answer s = (.ok (i.run answer s).1, (i.run answer s).2) :=
  Inquiry.run_bind answer i _ s

theorem run_addresses (purpose : Purpose) (name : String) (family : Family) :
    (addresses purpose name [family]).run.run answer s =
      ((foundRecords (answer ⟨name, addressType family, purpose⟩ s).1).map (sorted textLE),
        (answer ⟨name, addressType family, purpose⟩ s).2) := by
  rw [addresses_run, Inquiry.run_bind, run_records]
  rfl

theorem Truthful.foundRecords (h : Truthful answer I) {q : Question} (hq : q.ForAddresses) (hs : I s)
    {texts : List String} (hf : foundRecords (answer q s).1 = .ok texts) : AllAddresses texts := by
  cases hr : (answer q s).1 with
  | ok found =>
    rw [hr] at hf
    cases hf
    exact h.addresses q s texts hq hs hr
  | error e =>
    rw [hr] at hf
    cases e with
    | noAnswer =>
      cases hf
      exact fun _ => nofun
    | _ => cases hf

theorem AllAddresses.sorted {texts : List String} (h : AllAddresses texts) : AllAddresses (sorted textLE texts) :=
  fun text hm => h text ((sorted_perm textLE texts).mem_iff.mp hm)

theorem anyWrites_isOk {address : Address} : ∀ {texts : List String}, AllAddresses texts →
    ∃ found, anyWrites address texts = .ok found
  | [], _ => ⟨false, rfl⟩
  | text :: rest, h => by
    obtain ⟨found, hf⟩ := Option.isSome_iff_exists.mp (h text List.mem_cons_self)
    unfold anyWrites
    rw [hf]
    dsimp only
    split
    · exact ⟨true, rfl⟩
    · exact anyWrites_isOk fun text hm => h text (List.mem_cons_of_mem _ hm)

theorem Truthful.confirmed (h : Truthful answer I) {purpose : Purpose} {address : Address} :
    ∀ {names : List String} {s : σ}, I s → ∃ found, ((confirmed purpose address names).run.run answer s).1 = .ok found
  | [], _, _ => ⟨[], rfl⟩
  | name :: rest, s, hs => by
    have hq := forAddresses_addressType address.family name purpose
    have later : ∃ found, ((Dns.confirmed purpose address rest).run.run answer
        (answer ⟨name, addressType address.family, purpose⟩ s).2).1 = .ok found := h.confirmed (h.keep _ s hq.standard hs)
    unfold Dns.confirmed
    rw [run_bind_exceptT, run_lift_exceptT, run_addresses]
    dsimp only
    cases hf : Dns.foundRecords (answer ⟨name, addressType address.family, purpose⟩ s).1 with
    | error e => exact later
    | ok texts =>
      obtain ⟨matched, hm⟩ : ∃ matched, anyWrites address (sorted textLE texts) = .ok matched :=
        anyWrites_isOk (h.foundRecords hq hs hf).sorted
      dsimp only [Except.map]
      rw [hm, run_bind_exceptT]
      show ∃ found, ((Dns.confirmed purpose address rest >>= fun names =>
        pure (if matched then lower name :: names else names)).run.run answer _).1 = _
      rw [run_bind_exceptT]
      obtain ⟨found, hl⟩ := later
      generalize (Dns.confirmed purpose address rest).run.run answer _ = ran at hl
      obtain ⟨_, s'⟩ := ran
      cases hl
      exact ⟨_, rfl⟩

theorem Truthful.kept {context : Context} (h : Truthful answer I) {e : Evaluation α} (ha : AsksOnly Question.Standard e)
    {w w' : World σ} (hw : I w.state) {r : Except Failure α} (he : exec answer context e w = (r, w')) : I w'.state :=
  ha.exec_inv h.keep hw he

end

end Dns

namespace Evaluation

/-- Where a property of the state holds, the evaluation does not end in a fault. -/
def Faultless (answer : Question → σ → Answer × σ) (context : Context) (I : σ → Prop) (e : Evaluation α) : Prop :=
  ∀ w, I w.state → ∀ f, (exec answer context e w).1 ≠ .error (.fault f)

section
variable {answer : Question → σ → Answer × σ} {context : Context} {I : σ → Prop}

theorem faultless_pure (a : α) : Faultless answer context I (pure a) := fun _ _ _ => nofun

theorem faultless_throwPolicy (e : PolicyError) : Faultless answer context I (throwPolicy e : Evaluation α) :=
  fun _ _ _ => nofun

theorem faultless_ofInquiry (i : Inquiry α) : Faultless answer context I (ofInquiry i) := fun w _ _ => by
  rw [exec_ofInquiry]
  exact nofun

theorem faultless_countLookup : Faultless answer context I countLookup := fun w _ _ => by
  rw [exec_countLookup]
  split <;> exact nofun

theorem faultless_countVoidLookup : Faultless answer context I countVoidLookup := fun w _ _ => by
  rw [exec_countVoidLookup]
  split <;> exact nofun

theorem Faultless.reading {g : Context → Evaluation α} (h : Faultless answer context I (g context)) :
    Faultless answer context I (read >>= g) := h

theorem Faultless.bind_of_ok {e : Evaluation α} {g : α → Evaluation β} (h : Faultless answer context I e)
    (hg : ∀ w a w', I w.state → exec answer context e w = (.ok a, w') →
      ∀ f, (exec answer context (g a) w').1 ≠ .error (.fault f)) : Faultless answer context I (e >>= g) := by
  intro w hw f hf
  rcases exec_bind_error_iff.mp hf with hf | ⟨a, w', he, hf⟩
  · exact h w hw f hf
  · exact hg w a w' hw he f hf

theorem Faultless.bind (ht : Truthful answer I) {e : Evaluation α} {g : α → Evaluation β} (h : Faultless answer context I e)
    (ha : AsksOnly Question.Standard e) (hg : ∀ a, Faultless answer context I (g a)) :
    Faultless answer context I (e >>= g) :=
  h.bind_of_ok fun _ a w' hw he => hg a w' (ht.kept ha hw he)

/-! ### Evaluations that use addresses -/

variable (ht : Truthful answer I)
include ht

theorem clientNames_faultless : Faultless answer context I clientNames := by
  refine .reading (.bind_of_ok (faultless_ofInquiry _) fun w r w' hw hr f => ?_)
  rcases r with (e | text) | names
  · exact nofun
  · -- no text that fails to be an address has been found
    exfalso
    rw [exec_ofInquiry] at hr
    have hr := Except.ok.inj (congrArg Prod.fst hr)
    unfold confirmedNames at hr
    rw [run_bind_exceptT, run_lift_exceptT] at hr
    dsimp only at hr
    generalize hp : (pointers .confirmation context.address.reverseName?).run.run answer w.state = ran at hr
    have kept : I ran.2 := by
      rw [← hp]
      exact (pointers_asksOnly (P := Question.Standard) fun _ _ => nofun).run_inv ht.keep hw
    obtain ⟨e | names, s⟩ := ran
    · cases hr
    · obtain ⟨found, hf⟩ : ∃ found, ((confirmed .confirmation context.address
          (firstOf context.receiver.limits.pointers names)).run.run answer s).1 = .ok found := ht.confirmed kept
      exact absurd (hr.symm.trans hf) nofun
  · exact nofun

theorem hostAddresses_faultless (host : String) (family : Family) :
    Faultless answer context I (hostAddresses host family) := by
  rw [hostAddresses_eq]
  refine .bind ht (faultless_ofInquiry _) (.ofInquiry (records_asksOnly (addressType_ne_other family))) fun r => ?_
  rcases r with e | found
  · cases e with
    | noSuchDomain => exact .bind ht faultless_countVoidLookup .countVoidLookup fun _ => faultless_pure _
    | _ => exact faultless_throwPolicy _
  · dsimp only [Except.map, withAddresses]
    split
    · exact .bind ht faultless_countVoidLookup .countVoidLookup fun _ => faultless_pure _
    · exact faultless_pure _

omit ht in
/-- What is found is what the answer holds, in order; nothing if there is no such host. -/
theorem exec_hostAddresses_perm {w w' : World σ} {host : String} {family : Family} {found : List String}
    (he : exec answer context (hostAddresses host family) w = (.ok found, w')) :
    found.Perm ((foundRecords (answer ⟨host, addressType family, .mechanism⟩ w.state).1).toOption.getD []) := by
  rw [hostAddresses_eq] at he
  obtain ⟨r, w₁, hr, he⟩ := exec_bind_ok_iff.mp he
  unfold attempt at hr
  rw [exec_ofInquiry, run_records] at hr
  cases hr
  cases hf : foundRecords (answer ⟨host, addressType family, .mechanism⟩ w.state).1 with
  | error e =>
    rw [hf] at he
    cases e with
    | noSuchDomain =>
      obtain ⟨_, _, -, he⟩ := exec_bind_ok_iff.mp he
      cases he
      exact .refl _
    | _ => cases he
  | ok texts =>
    rw [hf] at he
    dsimp only [Except.map, withAddresses] at he
    split at he
    · obtain ⟨_, _, -, he⟩ := exec_bind_ok_iff.mp he
      cases he
      exact sorted_perm textLE texts
    · cases he
      exact sorted_perm textLE texts

theorem exec_hostAddresses_ok {w w' : World σ} (hw : I w.state) {host : String} {family : Family} {found : List String}
    (he : exec answer context (hostAddresses host family) w = (.ok found, w')) : AllAddresses found := by
  have perm := exec_hostAddresses_perm he
  cases hf : foundRecords (answer ⟨host, addressType family, .mechanism⟩ w.state).1 with
  | error e =>
    rw [hf] at perm
    rw [perm.eq_nil]
    exact fun _ => nofun
  | ok texts =>
    rw [hf] at perm
    exact fun text hm => ht.foundRecords (forAddresses_addressType family host .mechanism) hw hf text (perm.mem_iff.mp hm)

omit ht in
theorem anyShares_isOk {address : Address} {length : Nat} : ∀ {texts : List String}, AllAddresses texts →
    ∃ found, anyShares address length texts = .ok found
  | [], _ => ⟨false, rfl⟩
  | text :: rest, h => by
    obtain ⟨found, hf⟩ := Option.isSome_iff_exists.mp (h text List.mem_cons_self)
    unfold anyShares
    rw [hf]
    dsimp only
    split
    · exact ⟨true, rfl⟩
    · exact anyShares_isOk fun text hm => h text (List.mem_cons_of_mem _ hm)

theorem hostAddresses_isAmong_faultless (host : String) (cidr : DualCidr) (family : Family) {g : Bool → Evaluation β}
    (hg : ∀ among, Faultless answer context I (g among)) :
    Faultless answer context I (hostAddresses host family >>= fun found => isAmong cidr found >>= g) := by
  refine .bind_of_ok (hostAddresses_faultless ht host family) fun w found w' hw hf f => ?_
  have kept : I w'.state := ht.kept (hostAddresses_composed host family).asksOnly hw hf
  obtain ⟨among, ha⟩ : ∃ among, anyShares context.address (sharedLength cidr context.address.family) found = .ok among :=
    anyShares_isOk (exec_hostAddresses_ok ht hw hf)
  have found : exec answer context (isAmong cidr found) w' = (.ok among, w') := by
    unfold isAmong
    rw [exec_read_bind]
    dsimp only
    rw [ha]
    rfl
  rw [exec_bind_of_ok found]
  exact hg among w' kept f

theorem anyMailHost_faultless (cidr : DualCidr) : ∀ hosts, Faultless answer context I (anyMailHost cidr hosts)
  | [] => faultless_pure _
  | host :: rest => by
    refine .reading (hostAddresses_isAmong_faultless ht host.hostname cidr _ fun among => ?_)
    cases among with
    | true => exact faultless_pure _
    | false => exact anyMailHost_faultless cidr rest

theorem withMailHosts_faultless (cidr : DualCidr) (target : String) (r : Except LookupError (List MailHost)) :
    Faultless answer context I (withMailHosts cidr target r) := by
  rcases r with e | _ | ⟨host, rest⟩
  · cases e with
    | noSuchDomain => exact .bind ht faultless_countVoidLookup .countVoidLookup fun _ => faultless_pure _
    | _ => exact faultless_throwPolicy _
  · exact .bind ht faultless_countVoidLookup .countVoidLookup fun _ => faultless_pure _
  · refine .reading ?_
    dsimp only
    split
    · exact fun _ _ _ => nofun
    · exact anyMailHost_faultless ht cidr _

end

end Evaluation

end SenderPolicy
