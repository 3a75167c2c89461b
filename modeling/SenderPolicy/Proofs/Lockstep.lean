import Mathlib.Data.List.Forall2
import SenderPolicy.Proofs.CacheEntries
import SenderPolicy.Proofs.SortedOrder
import SenderPolicy.Proofs.Visit

/-! Clients in step. If two resolvers give the same records in another order, clients that ask them make the same calls,
keep the same entries in their caches and give answers that differ in nothing but the order of records. -/

namespace SenderPolicy.Dns

open Text

variable {σ τ α β : Type} {proper : Prop}

/-! ### Alike answers -/

/-- Two answers that differ at most in the order of their records, and not even in that for names of hosts. If a
condition holds, all mail records can be read. -/
inductive Answer.Alike (proper : Prop) (type : RecordType) : Answer → Answer → Prop
  | error (e : ResolverError) : Alike proper type (.error e) (.error e)
  | ok {texts texts' : List String} (perm : texts.Perm texts') (same : type = .ptr → texts = texts')
      (read : proper → type = .mx → ∀ text ∈ texts, ∃ host, MailHost.ofText text = .ok host) :
      Alike proper type (.ok texts) (.ok texts')

/-- Whoever answers from related states gives alike answers and comes to related states. -/
structure InStep (answer : Question → σ → Answer × σ) (answer' : Question → τ → Answer × τ) (proper : Prop)
    (R : σ → τ → Prop) : Prop where
  alike : ∀ q s s', q.Standard → R s s' → Answer.Alike proper q.type (answer q s).1 (answer' q s').1
  keep : ∀ q s s', q.Standard → R s s' → R (answer q s).2 (answer' q s').2

theorem InStep.askedFor {answer : Question → σ → Answer × σ} {answer' : Question → τ → Answer × τ} {R : σ → τ → Prop}
    (h : InStep answer answer' proper R) (purpose : Purpose) :
    InStep (fun q => answer { q with purpose }) (fun q => answer' { q with purpose }) proper R :=
  ⟨fun q s s' hq => h.alike { q with purpose } s s' hq, fun q s s' hq => h.keep { q with purpose } s s' hq⟩

/-! ### Caches -/

/-- Entries of one key and age whose records answer the questions of the key alike. -/
structure CacheEntry.InStep (proper : Prop) (entry entry' : CacheEntry) : Prop where
  key : entry.key = entry'.key
  stored : entry.stored = entry'.stored
  alike : ∀ q : Question, q.Standard → entry.key = Client.key q →
    Answer.Alike proper q.type (.ok entry.records) (.ok entry'.records)

/-- Caches of the same kind whose entries are in step. -/
structure Cache.InStep (proper : Prop) (cache cache' : Cache) : Prop where
  maxLength : cache.maxLength = cache'.maxLength
  maxAge : cache.maxAge = cache'.maxAge
  entries : List.Forall₂ (CacheEntry.InStep proper) cache.entries cache'.entries

namespace Cache.InStep

variable {cache cache' : Cache} {now : Instant} {key : String} {records records' : List String}

theorem sameEntry (h : cache.InStep proper cache') (key : String) :
    (cache.entry? key = none ∧ cache'.entry? key = none) ∨
      ∃ entry entry', cache.entry? key = some entry ∧ cache'.entry? key = some entry' ∧ entry.key = key ∧
        entry.InStep proper entry' := by
  unfold Cache.entry?
  have entries := h.entries
  generalize cache.entries = l at entries
  generalize cache'.entries = l' at entries
  induction entries with
  | nil => exact .inl ⟨rfl, rfl⟩
  | @cons entry entry' _ _ he _ ih =>
    rw [List.find?_cons, List.find?_cons, ← he.key]
    by_cases hk : entry.key = key
    · simp only [hk, beq_self_eq_true]
      exact .inr ⟨entry, entry', rfl, rfl, hk, he⟩
    · simp only [beq_false_of_ne hk]
      exact ih

theorem isSome_entry (h : cache.InStep proper cache') (key : String) :
    (cache.entry? key).isSome = (cache'.entry? key).isSome := by
  rcases h.sameEntry key with ⟨he, he'⟩ | ⟨entry, entry', he, he', -⟩ <;> rw [he, he']
  rfl

theorem isLive (h : cache.InStep proper cache') {entry entry' : CacheEntry} (he : entry.InStep proper entry') :
    cache.isLive now entry = cache'.isLive now entry' := by
  unfold Cache.isLive
  rw [h.maxAge, he.stored]

theorem erase (h : cache.InStep proper cache') (key : String) : (cache.erase key).InStep proper (cache'.erase key) where
  maxLength := h.maxLength
  maxAge := h.maxAge
  entries := List.rel_filter (fun _ _ he => by dsimp only; rw [he.key]) h.entries

theorem find (h : cache.InStep proper cache') (now : Instant) (key : String) :
    (cache.find now key).2.InStep proper (cache'.find now key).2 ∧
      (((cache.find now key).1 = none ∧ (cache'.find now key).1 = none) ∨
        ∃ entry entry' : CacheEntry, (cache.find now key).1 = some entry.records ∧ (cache'.find now key).1 = some entry'.records ∧
          entry.key = key ∧ entry.InStep proper entry') := by
  unfold Cache.find
  rcases h.sameEntry key with ⟨he, he'⟩ | ⟨entry, entry', he, he', hk, hs⟩
  · rw [he, he']
    exact ⟨h, .inl ⟨rfl, rfl⟩⟩
  · rw [he, he']
    dsimp only
    rw [h.isLive hs]
    split
    · exact ⟨h, .inr ⟨entry, entry', rfl, rfl, hk, hs⟩⟩
    · exact ⟨h.erase key, .inl ⟨rfl, rfl⟩⟩

theorem withRoom (h : cache.InStep proper cache') (now : Instant) (key : String) :
    (cache.withRoom now key).InStep proper (cache'.withRoom now key) := by
  have live : (cache.entry? key).any (cache.isLive now) = (cache'.entry? key).any (cache'.isLive now) := by
    rcases h.sameEntry key with ⟨he, he'⟩ | ⟨entry, entry', he, he', -, hs⟩
    · rw [he, he']
      rfl
    · rw [he, he']
      exact h.isLive hs
  have full : (cache.entries.length : Int) = cache.maxLength ↔ (cache'.entries.length : Int) = cache'.maxLength := by
    rw [h.entries.length_eq, h.maxLength]
  unfold Cache.withRoom
  rw [live]
  by_cases hf : (cache'.entries.length : Int) = cache'.maxLength
  · rw [if_pos hf, if_pos (full.mpr hf)]
    split
    · exact h.erase key
    · exact ⟨h.maxLength, h.maxAge, List.forall₂_drop 1 (h.erase key).entries⟩
  · rw [if_neg hf, if_neg (mt full.mp hf)]
    exact h

theorem insert (h : cache.InStep proper cache') (now : Instant) {q : Question} (hq : q.Standard)
    (hr : Answer.Alike proper q.type (.ok records) (.ok records')) :
    (cache.insert now (Client.key q) records).InStep proper (cache'.insert now (Client.key q) records') := by
  have new : CacheEntry.InStep proper ⟨Client.key q, records, now⟩ ⟨Client.key q, records', now⟩ :=
    ⟨rfl, rfl, fun q' hq' hk => type_eq_of_key_eq hq hq' hk ▸ hr⟩
  have room := h.withRoom now (Client.key q)
  unfold Cache.insert
  dsimp only
  rw [room.isSome_entry]
  split
  · refine ⟨room.maxLength, room.maxAge, List.rel_map (fun entry entry' he => ?_) room.entries⟩
    rw [← he.key]
    split
    · exact new
    · exact he
  · exact ⟨room.maxLength, room.maxAge, List.rel_append room.entries (.cons new .nil)⟩

end Cache.InStep

/-! ### Replies -/

/-- Two replies to a question of a type that differ at most in the order of their records, and not even in that for names
of hosts. -/
inductive Reply.Reordered (type : RecordType) : Reply → Reply → Prop
  | error (e : ResolverError) : Reordered type (.error e) (.error e)
  | ok {given given' : List ResourceRecord} (perm : given.Perm given') (same : type = .ptr → given = given') :
      Reordered type (.ok given) (.ok given')

/-- Two resolvers that reply the same, except for the order of records other than names of hosts. -/
def Resolver.Reorders (resolver resolver' : Resolver) : Prop :=
  ∀ calls q, Reply.Reordered q.type (resolver calls q) (resolver' calls q)

/-- All mail records that the resolver gives can be read: a preference and a host name with a space between them. -/
def Resolver.GivesMailHosts (resolver : Resolver) : Prop :=
  ∀ calls q given, q.type = .mx → resolver calls q = .ok given →
    ∀ record ∈ given, ∃ host, MailHost.ofText record.data = .ok host

theorem readReply_perm (type : RecordType) {given given' : List ResourceRecord} (h : given.Perm given') :
    (readReply type given).Perm (readReply type given') := by
  unfold readReply
  split
  · exact h.filterMap _
  · exact h.map _

theorem readReply_mx (given : List ResourceRecord) : readReply .mx given = given.map (·.data) := rfl

/-! ### Clients -/

/-- Where clients in step are: they have made the same calls, and their caches are in step. -/
structure ClientState.InStep (proper : Prop) (s s' : ClientState) : Prop where
  calls : s.calls = s'.calls
  cache : s.cache.InStep proper s'.cache

namespace Client

/-- The client with another resolver. -/
def withResolver (client : Client) (resolver : Resolver) : Client := { client with resolver }

section
variable {client : Client} {resolver' : Resolver} {q : Question} {s s' : ClientState}

/-- Caches in step hold records that answer a question alike, or none. -/
theorem stored_inStep (hq : q.Standard) (hs : s.InStep proper s') :
    (client.stored q s).2.InStep proper (client.stored q s').2 ∧
      (((client.stored q s).1 = none ∧ (client.stored q s').1 = none) ∨
        ∃ records records', (client.stored q s).1 = some records ∧ (client.stored q s').1 = some records' ∧
          Answer.Alike proper q.type (.ok records) (.ok records')) := by
  unfold stored
  split
  · obtain ⟨kept, found⟩ := hs.cache.find client.now (key q)
    refine ⟨kept, found.imp_right ?_⟩
    rintro ⟨entry, entry', he, he', hk, hs⟩
    exact ⟨entry.records, entry'.records, he, he', hs.alike q hq hk⟩
  · exact ⟨hs.cache, .inl ⟨rfl, rfl⟩⟩

variable (hr : client.resolver.Reorders resolver') (hm : proper → client.resolver.GivesMailHosts)
include hr hm

theorem call_inStep (hq : q.Standard) (settings : CallSettings) (hs : s.InStep proper s') :
    Answer.Alike proper q.type (client.call q settings s).1 ((client.withResolver resolver').call q settings s').1 ∧
      (client.call q settings s).2.InStep proper ((client.withResolver resolver').call q settings s').2 := by
  have reordered := hr s.calls q
  unfold call withResolver
  dsimp only
  rw [← hs.calls]
  generalize hg : client.resolver s.calls q = reply at reordered
  generalize resolver' s.calls q = reply' at reordered
  cases reordered with
  | error e => exact ⟨.error e, rfl, hs.cache⟩
  | @ok given given' perm same =>
    have alike : Answer.Alike proper q.type (.ok (readReply q.type given)) (.ok (readReply q.type given')) := by
      refine .ok (readReply_perm q.type perm) (fun ht => by rw [same ht]) fun hp ht text hmem => ?_
      rw [ht, readReply_mx] at hmem
      obtain ⟨record, hrecord, rfl⟩ := List.mem_map.mp hmem
      exact hm hp s.calls q given ht hg record hrecord
    refine ⟨alike, ?_⟩
    dsimp only
    split
    · exact ⟨rfl, hs.cache.insert client.now hq alike⟩
    · exact ⟨rfl, hs.cache⟩

theorem attempt_inStep (hq : q.Standard) (hs : s.InStep proper s') :
    Answer.Alike proper q.type (client.attempt q s).1 ((client.withResolver resolver').attempt q s').1 ∧
      (client.attempt q s).2.InStep proper ((client.withResolver resolver').attempt q s').2 := by
  obtain ⟨kept, found⟩ := @stored_inStep _ client q s s' hq hs
  rw [attempt_eq, attempt_eq, show (client.withResolver resolver').options = client.options from rfl,
    show (client.withResolver resolver').stored q s' = client.stored q s' from rfl]
  rcases found with ⟨hn, hn'⟩ | ⟨records, records', hf, hf', alike⟩
  · rw [hn, hn']
    cases client.options.settings with
    | error e => exact ⟨.error _, hs.calls, kept⟩
    | ok settings => exact call_inStep hr hm hq settings ⟨hs.calls, kept⟩
  · rw [hf, hf']
    exact ⟨alike, hs.calls, kept⟩

theorem answer_inStep (retries : Nat) (hq : q.Standard) (hs : s.InStep proper s') :
    Answer.Alike proper q.type (client.answer retries q s).1 ((client.withResolver resolver').answer retries q s').1 ∧
      (client.answer retries q s).2.InStep proper ((client.withResolver resolver').answer retries q s').2 := by
  induction retries generalizing q s s' with
  | zero =>
    have once := attempt_inStep hr hm (hq.renamed (Domain.normalized q.name)) hs
    rw [answer, answer]
    exact once
  | succ retries ih =>
    have once := attempt_inStep hr hm (hq.renamed (Domain.normalized q.name)) hs
    have again := fun s s' => @ih _ s s' (hq.renamed (Domain.normalized q.name))
    rw [answer, answer]
    generalize client.attempt { q with name := Domain.normalized q.name } s = r at once
    generalize (client.withResolver resolver').attempt { q with name := Domain.normalized q.name } s' = r' at once
    obtain ⟨reply, s₁⟩ := r
    obtain ⟨reply', s₂⟩ := r'
    obtain ⟨alike, kept⟩ := once
    cases alike with
    | error e =>
      cases e with
      | lifetimeExpired => exact again s₁ s₂ kept
      | _ => exact ⟨.error _, kept⟩
    | ok perm same read => exact ⟨.ok perm same read, kept⟩

/-- Clients whose resolvers differ in the order of records only stay in step. -/
theorem answers_inStep :
    Dns.InStep client.answers (client.withResolver resolver').answers proper (ClientState.InStep proper) :=
  ⟨fun _ _ _ hq hs => (answer_inStep hr hm _ hq hs).1, fun _ _ _ hq hs => (answer_inStep hr hm _ hq hs).2⟩

end

end Client

end SenderPolicy.Dns
