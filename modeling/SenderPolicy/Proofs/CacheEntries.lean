import Mathlib.Logic.Function.Iterate
import SenderPolicy.Dns.Client
import SenderPolicy.Proofs.Composed

/-! The entries of a cache. Reading never adds one, and putting records in adds one at most; the key of an entry tells for
which name and which of the standard types it stands. So if what a resolver gives fits its questions, so does what a client
answers, from its cache or by a call. -/

namespace SenderPolicy.Dns

/-! ### Keys -/

theorem Question.Standard.renamed {q : Question} (h : q.Standard) (name : String) : Question.Standard { q with name } := h

theorem text_inj {t u : RecordType} (ht : ∀ name, t ≠ .other name) (hu : ∀ name, u ≠ .other name) (h : t.text = u.text) :
    t = u := by
  cases t <;> cases u <;> first | rfl | exact absurd rfl (ht _) | exact absurd rfl (hu _) | exact absurd h (by decide)

theorem underscore_not_mem_text {t : RecordType} (ht : ∀ name, t ≠ .other name) : '_' ∉ t.text.toList := by
  cases t with
  | other name => exact absurd rfl (ht name)
  | _ => decide

/-- Names may hold underscores, but the type stands behind the last one. -/
theorem takeWhile_key {q : Question} (hq : q.Standard) :
    (Client.key q).toList.reverse.takeWhile (· != '_') = q.type.text.toList.reverse := by
  have text : ∀ c ∈ q.type.text.toList.reverse, (c != '_') = true := fun c hc =>
    bne_iff_ne.mpr fun he => underscore_not_mem_text hq (he ▸ List.mem_reverse.mp hc)
  rw [show (Client.key q).toList = q.name.toList ++ '_' :: q.type.text.toList by simp [Client.key],
    List.reverse_append, List.reverse_cons, List.append_assoc, List.takeWhile_append_of_pos text]
  simp

theorem type_eq_of_key_eq {q q' : Question} (hq : q.Standard) (hq' : q'.Standard) (h : Client.key q = Client.key q') :
    q.type = q'.type := by
  have same : q.type.text.toList.reverse = q'.type.text.toList.reverse := by
    rw [← takeWhile_key hq, ← takeWhile_key hq', h]
  exact text_inj hq hq' (String.toList_inj.mp (List.reverse_inj.mp same))

theorem name_eq_of_key_eq {q q' : Question} (hq : q.Standard) (hq' : q'.Standard) (h : Client.key q = Client.key q') :
    q.name = q'.name := by
  have type := type_eq_of_key_eq hq hq' h
  unfold Client.key at h
  rw [type, ← String.toList_inj] at h
  simp only [String.toList_append] at h
  exact String.toList_inj.mp (List.append_cancel_right (List.append_cancel_right h))

/-! ### Entries -/

namespace Cache

variable {cache : Cache} {now : Instant} {key : String} {records : List String} {entry : CacheEntry}

theorem mem_of_mem_erase (h : entry ∈ (cache.erase key).entries) : entry ∈ cache.entries := (List.mem_filter.mp h).1

theorem mem_of_mem_find (h : entry ∈ (cache.find now key).2.entries) : entry ∈ cache.entries := by
  unfold find at h
  split at h
  · exact h
  · split at h
    · exact h
    · exact mem_of_mem_erase h

theorem mem_of_mem_withRoom (h : entry ∈ (cache.withRoom now key).entries) : entry ∈ cache.entries := by
  unfold withRoom at h
  split at h
  · split at h
    · exact mem_of_mem_erase h
    · exact mem_of_mem_erase (List.mem_of_mem_drop h)
  · exact h

/-- Putting records in adds their own entry only. -/
theorem eq_or_mem_of_mem_insert (h : entry ∈ (cache.insert now key records).entries) :
    entry = ⟨key, records, now⟩ ∨ entry ∈ cache.entries := by
  unfold insert at h
  dsimp only at h
  split at h
  · obtain ⟨old, ho, rfl⟩ := List.mem_map.mp h
    split
    · exact .inl rfl
    · exact .inr (mem_of_mem_withRoom ho)
  · rcases List.mem_append.mp h with h | h
    · exact .inr (mem_of_mem_withRoom h)
    · exact .inl (List.mem_singleton.mp h)

theorem exists_of_find (h : (cache.find now key).1 = some records) :
    ∃ entry ∈ cache.entries, entry.key = key ∧ entry.records = records := by
  unfold find at h
  split at h
  · cases h
  · rename_i entry he
    unfold entry? at he
    have same := List.find?_some he
    split at h
    · exact ⟨entry, List.mem_of_find?_eq_some he, beq_iff_eq.mp same, Option.some.inj h⟩
    · cases h

end Cache

/-! ### Attempts -/

namespace Client

/-- What the cache of a client holds for a question, and the cache after it has been looked up there. -/
def stored (client : Client) (q : Question) (s : ClientState) : Option (List String) × Cache :=
  if client.caching then s.cache.find client.now (key q) else (none, s.cache)

variable {client : Client} {q : Question} {s : ClientState}

theorem attempt_eq (client : Client) (q : Question) (s : ClientState) :
    client.attempt q s = match (client.stored q s).1 with
      | some records => (.ok records, { s with cache := (client.stored q s).2 })
      | none => match client.options.settings with
        | .error e => (.error (.badTimeout e), { s with cache := (client.stored q s).2 })
        | .ok settings => client.call q settings { s with cache := (client.stored q s).2 } := rfl

/-- All that may come of one attempt to answer. -/
@[elab_as_elim]
theorem attempt_cases {motive : Answer × ClientState → Prop}
    (hit : ∀ records, (client.stored q s).1 = some records → motive (.ok records, { s with cache := (client.stored q s).2 }))
    (unset : ∀ e, client.options.settings = .error e →
      motive (.error (.badTimeout e), { s with cache := (client.stored q s).2 }))
    (call : ∀ settings, client.options.settings = .ok settings →
      motive (client.call q settings { s with cache := (client.stored q s).2 })) : motive (client.attempt q s) := by
  rw [attempt_eq]
  cases hs : (client.stored q s).1 with
  | some records => exact hit records hs
  | none =>
    cases hc : client.options.settings with
    | error e => exact unset e hc
    | ok settings => exact call settings hc

theorem calls_call (client : Client) (q : Question) (settings : CallSettings) (s : ClientState) :
    (client.call q settings s).2.calls = ⟨q, settings⟩ :: s.calls := by
  unfold call
  dsimp only
  split
  · rfl
  · dsimp only
    split <;> rfl

/-- An attempt to answer a question calls the resolver with it at most once. -/
theorem calls_attempt (client : Client) (q : Question) (s : ClientState) :
    ∃ made, (client.attempt q s).2.calls = made ++ s.calls ∧ made.length ≤ 1 ∧ ∀ c ∈ made, c.question = q := by
  have silent : ∃ made, s.calls = made ++ s.calls ∧ made.length ≤ 1 ∧ ∀ c ∈ made, c.question = q :=
    ⟨[], rfl, Nat.zero_le 1, fun _ => nofun⟩
  refine attempt_cases (fun _ _ => silent) (fun _ _ => silent) fun settings _ => ?_
  refine ⟨[⟨q, settings⟩], calls_call client q settings _, Nat.le_refl 1, fun c hc => ?_⟩
  rw [List.mem_singleton.mp hc]

/-- An answer takes at most one call more than there are retries. They ask for the name as it has been put into its normal form
a number of times. -/
theorem calls_answer (client : Client) (retries : ℕ) (q : Question) (s : ClientState) :
    ∃ made, (client.answer retries q s).2.calls = made ++ s.calls ∧ made.length ≤ 1 + retries ∧
      ∀ c ∈ made, ∃ passes, c.question = { q with name := Domain.normalized^[passes + 1] q.name } := by
  induction retries generalizing q s with
  | zero =>
    obtain ⟨made, hm, few, same⟩ := calls_attempt client { q with name := Domain.normalized q.name } s
    rw [answer]
    exact ⟨made, hm, few, fun c hc => ⟨0, same c hc⟩⟩
  | succ retries ih =>
    obtain ⟨made, hm, few, same⟩ := calls_attempt client { q with name := Domain.normalized q.name } s
    rw [answer]
    split
    · rename_i t s' he
      rw [he] at hm
      dsimp only at hm
      obtain ⟨later, hl, bounded, same'⟩ := ih { q with name := Domain.normalized q.name } s'
      refine ⟨later ++ made, by rw [hl, hm, List.append_assoc], ?_, fun c hc => ?_⟩
      · rw [List.length_append]
        omega
      · rcases List.mem_append.mp hc with hc | hc
        · obtain ⟨passes, asked⟩ := same' c hc
          exact ⟨passes + 1, asked⟩
        · exact ⟨0, same c hc⟩
    · exact ⟨made, hm, by omega, fun c hc => ⟨0, same c hc⟩⟩

/-- What holds of all attempts, whatever the name, holds of an answer. -/
theorem answer_of_attempts {I : ClientState → Prop} {M : Answer → Prop} {q : Question}
    (once : ∀ name s, I s → I (client.attempt { q with name } s).2 ∧ M (client.attempt { q with name } s).1) (retries : Nat)
    (hs : I s) : I (client.answer retries q s).2 ∧ M (client.answer retries q s).1 := by
  induction retries generalizing q s with
  | zero =>
    rw [answer]
    exact once _ s hs
  | succ retries ih =>
    have first := once (Domain.normalized q.name) s hs
    rw [answer]
    split
    · rename_i he
      rw [he] at first
      exact ih once first.1
    · exact first

/-- The answer to a question depends on the normal form of its name only. -/
theorem answer_renamed {q q' : Question}
    (h : ({ q with name := Domain.normalized q.name } : Question) = { q' with name := Domain.normalized q'.name })
    (retries : Nat) (s : ClientState) : client.answer retries q s = client.answer retries q' s := by
  cases retries <;> rw [answer, answer, h]

theorem mem_of_mem_stored {entry : CacheEntry} (h : entry ∈ (client.stored q s).2.entries) : entry ∈ s.cache.entries := by
  unfold stored at h
  split at h
  · exact Cache.mem_of_mem_find h
  · exact h

theorem exists_of_stored {records : List String} (h : (client.stored q s).1 = some records) :
    ∃ entry ∈ s.cache.entries, entry.key = key q ∧ entry.records = records := by
  unfold stored at h
  split at h
  · exact Cache.exists_of_find h
  · cases h

end Client

/-! ### What fits questions -/

/-- The records of all entries fit the questions under whose keys they stand. -/
def Cache.Holds (fits : Question → Answer → Prop) (cache : Cache) : Prop :=
  ∀ entry ∈ cache.entries, ∀ q : Question, q.Standard → entry.key = Client.key q → fits q (.ok entry.records)

/-- The replies of the resolver fit its questions, and records fit all questions of one key or none. -/
structure Resolver.Fits (fits : Question → Answer → Prop) (resolver : Resolver) : Prop where
  reply : ∀ calls q, q.Standard → fits q ((resolver calls q).map (readReply q.type))
  same : ∀ q q' records, q.Standard → q'.Standard → Client.key q = Client.key q' → fits q (.ok records) → fits q' (.ok records)

theorem Cache.holds_of_empty {fits : Question → Answer → Prop} {cache : Cache} (h : cache.entries = []) : cache.Holds fits :=
  fun entry he => by
    rw [h] at he
    cases he

namespace Client

variable {client : Client} {q : Question} {s : ClientState} {fits : Question → Answer → Prop}
  (hr : client.resolver.Fits fits)
include hr

theorem call_fits (hq : q.Standard) (settings : CallSettings) (hs : s.cache.Holds fits) :
    (client.call q settings s).2.cache.Holds fits ∧ fits q (client.call q settings s).1 := by
  have reply := hr.reply s.calls q hq
  unfold call
  dsimp only
  cases hg : client.resolver s.calls q with
  | error e =>
    rw [hg] at reply
    exact ⟨hs, reply⟩
  | ok given =>
    rw [hg] at reply
    refine ⟨?_, reply⟩
    dsimp only
    split
    · intro entry he q' hq' hk
      rcases Cache.eq_or_mem_of_mem_insert he with rfl | he
      · exact hr.same q q' _ hq hq' hk reply
      · exact hs entry he q' hq' hk
    · exact hs

variable (unset : ∀ q cause, client.options.settings = .error cause → fits q (.error (.badTimeout cause)))
include unset

/-- From the cache or by a call, a question gets an answer that fits. -/
theorem attempt_fits (hq : q.Standard) (hs : s.cache.Holds fits) :
    (client.attempt q s).2.cache.Holds fits ∧ fits q (client.attempt q s).1 := by
  have kept : (client.stored q s).2.Holds fits := fun entry he => hs entry (mem_of_mem_stored he)
  refine attempt_cases (fun records hf => ⟨kept, ?_⟩) (fun e he => ⟨kept, unset q e he⟩)
    fun settings _ => call_fits hr hq settings kept
  obtain ⟨entry, he, hk, rfl⟩ := exists_of_stored hf
  exact hs entry he q hq hk

/-- An answer fits the question under some name. -/
theorem answer_fits (retries : Nat) (hq : q.Standard) (hs : s.cache.Holds fits) :
    (client.answer retries q s).2.cache.Holds fits ∧ ∃ name, fits { q with name } (client.answer retries q s).1 :=
  answer_of_attempts (I := fun s => s.cache.Holds fits) (M := fun a => ∃ name, fits { q with name } a)
    (fun name _ hs => (attempt_fits hr unset (hq.renamed name) hs).imp_right fun h => ⟨name, h⟩) retries hs

end Client

end SenderPolicy.Dns
