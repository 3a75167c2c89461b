import Mathlib.Data.ENat.Lattice
import SenderPolicy.Proofs.CacheEntries
import SenderPolicy.Proofs.LetterCase
import SenderPolicy.Proofs.Visit

/-! Retries of a question. A resolver whose time runs out is called again, with the same name and settings, until it replies
otherwise or all retries are used up; what it says in the last of these calls is the answer. The cache is read once, loses
what it held for the question, and gets one new entry if there are records. -/

namespace SenderPolicy

open Text

namespace Dns

/-! ### One key of a cache -/

namespace Cache

variable {cache : Cache} {now : Instant} {key : String} {records : List String} {entry : CacheEntry}

/-- The cache with an entry behind all others; if it is full, the first of these makes room. -/
def put (cache : Cache) (entry : CacheEntry) : Cache :=
  { cache with
    entries := (if (cache.entries.length : Int) = cache.maxLength then cache.entries.drop 1 else cache.entries) ++ [entry] }

theorem entry_erase : Cache.entry? (cache.erase key) key = none := by
  unfold entry? erase
  rw [List.find?_filter]
  simp

theorem erase_of_entry (h : cache.entry? key = none) : cache.erase key = cache := by
  have others : ∀ entry ∈ cache.entries, (entry.key != key) = true := by
    unfold entry? at h
    simpa [List.find?_eq_none] using h
  unfold erase
  rw [List.filter_eq_self.mpr others]

/-- A lookup without a live entry gives nothing, and the cache holds nothing under the key from then on. -/
theorem find_of_stale (h : ∀ entry, cache.entry? key = some entry → cache.isLive now entry = false) :
    cache.find now key = (none, cache.erase key) := by
  unfold find
  cases he : cache.entry? key with
  | none => rw [erase_of_entry he]
  | some entry => simp [h entry he]

/-- Records put in under a key that the cache does not hold come last. -/
theorem insert_of_entry (h : cache.entry? key = none) :
    cache.insert now key records = cache.put ⟨key, records, now⟩ := by
  have room : cache.withRoom now key = { cache with
      entries := if (cache.entries.length : Int) = cache.maxLength then cache.entries.drop 1 else cache.entries } := by
    unfold withRoom
    simp only [h, erase_of_entry h, Option.any_none, Bool.false_eq_true, if_false]
    split <;> rfl
  have absent : Cache.entry? (cache.withRoom now key) key = none := by
    unfold entry? at h ⊢
    simp only [List.find?_eq_none] at h ⊢
    exact fun entry he => h entry (mem_of_mem_withRoom he)
  unfold insert
  simp only [absent, Option.isSome_none, Bool.false_eq_true, if_false]
  rw [room]
  rfl

end Cache

/-! ### How long a resolver's time runs out -/

/-- The reply says that the time of the resolver has run out. -/
def Reply.Expired (reply : Reply) : Prop := ∃ after, reply = .error (.lifetimeExpired after)

/-- How many replies at the beginning of a sequence say that the time of the resolver has run out. -/
noncomputable def leadingExpiries (replies : ℕ → Reply) : ℕ∞ := ⨅ n : {n // ¬ Reply.Expired (replies n)}, (n : ℕ∞)

theorem le_leadingExpiries {replies : ℕ → Reply} {n : ℕ} :
    n ≤ leadingExpiries replies ↔ ∀ i < n, Reply.Expired (replies i) := by
  simp only [leadingExpiries, le_iInf_iff, Subtype.forall, Nat.cast_le]
  exact ⟨fun h i hi => by_contra fun hr => absurd (h i hr) (by omega),
    fun h i hr => Nat.le_of_not_lt fun hi => hr (h i hi)⟩

theorem leadingExpiries_le {replies : ℕ → Reply} {n : ℕ} (h : ¬ Reply.Expired (replies n)) : leadingExpiries replies ≤ n :=
  iInf_le (fun n : {n // ¬ Reply.Expired (replies n)} => (n : ℕ∞)) ⟨n, h⟩

/-- Of calls that go on as long as the time runs out, but not beyond a budget, the number of the last is the smaller of
both numbers. -/
theorem within_budget {replies : ℕ → Reply} {last budget : ℕ} (few : last ≤ budget)
    (before : ∀ i < last, Reply.Expired (replies i)) (full : Reply.Expired (replies last) → last = budget) :
    last = min (leadingExpiries replies) budget ∧ (budget < leadingExpiries replies ↔ Reply.Expired (replies last)) := by
  by_cases expired : Reply.Expired (replies last)
  · obtain rfl := full expired
    have more : (last + 1 : ℕ) ≤ leadingExpiries replies := le_leadingExpiries.mpr fun i hi => by
      rcases Nat.lt_succ_iff_lt_or_eq.mp hi with hi | rfl
      · exact before i hi
      · exact expired
    have less : last < leadingExpiries replies :=
      (ENat.add_one_le_iff (ENat.natCast_ne_top _)).mp (by exact_mod_cast more)
    exact ⟨(min_eq_right less.le).symm, iff_of_true less expired⟩
  · have most : leadingExpiries replies = last := le_antisymm (leadingExpiries_le expired) (le_leadingExpiries.mpr before)
    have fits : leadingExpiries replies ≤ budget := most ▸ Nat.cast_le.mpr few
    exact ⟨by rw [min_eq_left fits, most], iff_of_false fits.not_gt expired⟩

/-! ### An answer as its last call -/

namespace Client

variable {client : Client} {q : Question} {settings : CallSettings} {s : ClientState}

/-- What the resolver replies when a question has been put to it some times already. -/
def replies (client : Client) (q : Question) (settings : CallSettings) (s : ClientState) (n : ℕ) : Reply :=
  client.resolver (List.replicate n ⟨q, settings⟩ ++ s.calls) q

/-- The state when a question has been put to the resolver some times and given no records to keep. -/
def asked (q : Question) (settings : CallSettings) (s : ClientState) (n : ℕ) : ClientState :=
  ⟨s.cache.erase (key q), List.replicate n ⟨q, settings⟩ ++ s.calls⟩

/-- A call is logged, and records that it gives are put into the cache. -/
theorem call_asked (caching : client.caching = true) (n : ℕ) :
    client.call q settings (asked q settings s n) =
      ((client.replies q settings s n).map (readReply q.type),
        match (client.replies q settings s n).map (readReply q.type) with
        | .error _ => asked q settings s (n + 1)
        | .ok records => { asked q settings s (n + 1) with
            cache := (s.cache.erase (key q)).put ⟨key q, records, client.now⟩ }) := by
  have reply : client.resolver (asked q settings s n).calls q = client.replies q settings s n := rfl
  unfold call
  rw [reply]
  cases client.replies q settings s n with
  | error e => simp [asked, Except.map, List.replicate_succ]
  | ok given => simp [asked, Except.map, caching, List.replicate_succ, Cache.insert_of_entry Cache.entry_erase]

section
variable (caching : client.caching = true) (set : client.options.settings = .ok settings)
include caching set

/-- Without a live entry, an attempt calls the resolver. -/
theorem attempt_of_stale (stale : ∀ entry, s.cache.entry? (key q) = some entry → s.cache.isLive client.now entry = false) :
    client.attempt q s = client.call q settings (asked q settings s 0) := by
  simp [attempt_eq, stored, asked, caching, set, Cache.find_of_stale stale]

/-- An answer is what the last of some calls gives; its retries stand for the calls before it, in each of which the time of
the resolver has run out. -/
theorem answer_eq_call (normal : Domain.normalized q.name = q.name)
    (stale : ∀ entry, s.cache.entry? (key q) = some entry → s.cache.isLive client.now entry = false) (retries : ℕ) :
    ∃ last ≤ retries, (∀ i < last, Reply.Expired (client.replies q settings s i)) ∧
      (Reply.Expired (client.replies q settings s last) → last = retries) ∧
      client.answer retries q s = client.call q settings (asked q settings s last) := by
  have named : { q with name := Domain.normalized q.name } = q := by rw [normal]
  induction retries generalizing s with
  | zero =>
    refine ⟨0, Nat.le_refl 0, fun i hi => absurd hi (Nat.not_lt_zero i), fun _ => rfl, ?_⟩
    rw [answer, named]
    exact attempt_of_stale caching set stale
  | succ retries ih =>
    rw [answer, named, attempt_of_stale caching set stale]
    by_cases expired : Reply.Expired (client.replies q settings s 0)
    · -- The next attempt finds nothing under the key and one more call in the log.
      have shifted : ∀ n, asked q settings (asked q settings s 1) n = asked q settings s (n + 1) := fun n => by
        simp [asked, List.replicate_succ', Cache.erase_of_entry Cache.entry_erase]
      have later : ∀ n, client.replies q settings (asked q settings s 1) n = client.replies q settings s (n + 1) := fun n =>
        congrArg (fun s : ClientState => client.resolver s.calls q) (shifted n)
      obtain ⟨last, few, before, full, same⟩ := ih (s := asked q settings s 1) fun entry he => by
        simp [asked, Cache.entry_erase] at he
      refine ⟨last + 1, by omega, fun i hi => ?_, fun h => ?_, ?_⟩
      · cases i with
        | zero => exact expired
        | succ i =>
          rw [← later]
          exact before i (by omega)
      · rw [full (by rwa [later])]
      · obtain ⟨after, he⟩ := expired
        rw [call_asked caching, he]
        exact same.trans (by rw [shifted])
    · refine ⟨0, by omega, fun i hi => absurd hi (Nat.not_lt_zero i), fun h => absurd h expired, ?_⟩
      rw [call_asked caching]
      cases reply : client.replies q settings s 0 with
      | ok given => rfl
      | error e =>
        cases e with
        | lifetimeExpired after => exact absurd ⟨after, reply⟩ expired
        | _ => rfl

/-- Retries are exact and touch one entry. A question is put to the resolver once more for each reply at the beginning that
says its time has run out, within the number of retries; all calls are for the normal form of the name. The answer is what
the last reply says. The cache loses what it held for the question, and if there are records, they come in behind all other
entries, of which the first makes room in a full cache. -/
theorem answers_retried (ascii : MadeOf IsAscii q.name)
    (stale : ∀ entry, s.cache.entry? (key { q with name := Domain.normalized q.name }) = some entry →
      s.cache.isLive client.now entry = false) :
    let normal := { q with name := Domain.normalized q.name }
    let replies := client.replies normal settings s
    let others := s.cache.erase (key normal)
    let ran := client.answers q s
    ∃ last : ℕ, last = min (leadingExpiries replies) client.options.retries.toNat ∧
      ran.2.calls = List.replicate (last + 1) ⟨normal, settings⟩ ++ s.calls ∧
      ran.1 = (replies last).map (readReply q.type) ∧
      (client.options.retries.toNat < leadingExpiries replies ↔ ∃ after, ran.1 = .error (.lifetimeExpired after)) ∧
      ran.2.cache = match ran.1 with
        | .error _ => others
        | .ok records => others.put ⟨key normal, records, client.now⟩ := by
  intro normal replies others ran
  have fixed : Domain.normalized (Domain.normalized q.name) = Domain.normalized q.name := normalized_normalized ascii
  have renamed : ran = client.answers normal s :=
    answer_renamed (by rw [show normal.name = Domain.normalized q.name from rfl, fixed]) _ s
  obtain ⟨last, few, before, full, same⟩ :=
    answer_eq_call (q := normal) caching set fixed stale client.options.retries.toNat
  obtain ⟨count, spent⟩ := within_budget few before full
  rw [renamed, answers, same, call_asked caching, spent]
  refine ⟨last, count, ?_⟩
  change _ ∧ _ = (replies last).map _ ∧ _
  cases reply : replies last with
  | error e =>
    rw [show client.replies normal settings s last = .error e from reply]
    exact ⟨rfl, rfl, by simp [Reply.Expired, Except.map], rfl⟩
  | ok given =>
    rw [show client.replies normal settings s last = .ok given from reply]
    exact ⟨rfl, rfl, by simp [Reply.Expired, Except.map], rfl⟩

end

/-- A zone whose only name answers from the second call on. -/
def slowZone : Zone := [("example.com", [("A", .sequence [.error (.lifetimeExpired none), .ok [.text "192.0.2.1"]])])]

/-- A full cache with room for one entry, which belongs to another name. -/
def fullState : ClientState := ⟨⟨1, 1800, [⟨"example.org_A", ["192.0.2.9"], .whole 0⟩]⟩, []⟩

theorem answers_retried_slowZone :
    let client := ofZone slowZone
    let two : Quantity := .finite ⟨false, 2, 0⟩
    let settings : CallSettings := ⟨none, some two, some two, .quantity two⟩
    let ran := client.answers ⟨"Example.com", .a, .direct⟩ fullState
    client.caching = true ∧ client.options.settings = .ok settings ∧ MadeOf IsAscii "Example.com" ∧
      fullState.cache.entry? "example.com_A" = none ∧
      leadingExpiries (client.replies ⟨Domain.normalized "Example.com", .a, .direct⟩ settings fullState) = 1 ∧
      ran.1 = .ok ["192.0.2.1"] ∧ ran.2.cache.entries = [⟨"example.com_A", ["192.0.2.1"], .whole 0⟩] := by
  intro client two settings
  have name : Domain.normalized "Example.com" = "example.com" := by decide
  have absent : fullState.cache.entry? "example.com_A" = none := by decide
  have ascii : MadeOf IsAscii "Example.com" := by decide
  have set : client.options.settings = .ok settings := rfl
  have retried := answers_retried (q := ⟨"Example.com", .a, .direct⟩) (s := fullState) (show client.caching = true from rfl) set ascii
    (by simp [name, key, RecordType.text, absent])
  have answer : (client.answers ⟨"Example.com", .a, .direct⟩ fullState).1 = .ok ["192.0.2.1"] := by decide +kernel
  have twice : (client.answers ⟨"Example.com", .a, .direct⟩ fullState).2.calls.length = 2 := by decide +kernel
  -- What the run is made of does not matter any more.
  generalize client.answers ⟨"Example.com", .a, .direct⟩ fullState = ran at retried answer twice ⊢
  obtain ⟨last, count, calls, -, -, cache⟩ := retried
  obtain rfl : last = 1 := by
    rw [calls] at twice
    simpa [fullState] using twice
  refine ⟨rfl, set, ascii, absent, ?_, answer, ?_⟩
  · rcases min_choice (leadingExpiries (client.replies ⟨Domain.normalized "Example.com", .a, .direct⟩ settings fullState))
      (2 : ℕ) with h | h
    · exact (count.trans h).symm
    · exact absurd (Nat.cast_inj.mp (count.trans h)) (by decide)
  · rw [cache, answer]
    decide +kernel

end Client

end Dns

end SenderPolicy
