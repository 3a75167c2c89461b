import SenderPolicy.Proofs.PairedChecks

/-! Clients that answer two checks. They ask one resolver, but by clocks that may show different times. As long as their
caches hold the same records, put in at those times, they make the same calls and give the same answers; and what they give,
the resolver has given. -/

namespace SenderPolicy

open Dns Text

theorem Instant.since_self (t : Instant) : (t.since t).value = 0 := by
  cases t with
  | whole n => simp [since, value]
  | binary q =>
    show Number.nearestBinary64 (q - q) = 0
    rw [Rat.sub_eq_add_neg, Rat.add_neg_cancel]
    rfl

namespace Dns

/-! ### Caches at two times -/

/-- The cache with all entries put in at one time. -/
def Cache.storedAt (t : Instant) (cache : Cache) : Cache :=
  { cache with entries := cache.entries.map fun entry => { entry with stored := t } }

namespace Cache

variable {cache : Cache} {now t : Instant} {key : String} {records : List String}

theorem entry_storedAt (t : Instant) (cache : Cache) (key : String) :
    Cache.entry? (cache.storedAt t) key = (cache.entry? key).map fun entry => { entry with stored := t } := List.find?_map

theorem erase_storedAt (t : Instant) (cache : Cache) (key : String) :
    (cache.storedAt t).erase key = (cache.erase key).storedAt t := by
  unfold erase storedAt
  dsimp only
  rw [List.filter_map]
  rfl

/-- An entry that has just been put in is used if any is. -/
theorem isLive_of_stored {entry : CacheEntry} (h : entry.stored = now) :
    cache.isLive now entry = (cache.storedAt t).isLive t { entry with stored := t } := by
  unfold isLive storedAt
  dsimp only
  rw [h, Instant.since_self, Instant.since_self]

/-- All entries have been put in at a time. -/
def AllStoredAt (now : Instant) (cache : Cache) : Prop := ∀ entry ∈ cache.entries, entry.stored = now

theorem stored_of_entry (h : cache.AllStoredAt now) {entry : CacheEntry} (he : cache.entry? key = some entry) :
    entry.stored = now := h entry (List.mem_of_find?_eq_some he)

theorem find_storedAt (h : cache.AllStoredAt now) (t : Instant) (key : String) :
    (cache.storedAt t).find t key = ((cache.find now key).1, (cache.find now key).2.storedAt t) := by
  unfold find
  rw [entry_storedAt]
  cases he : cache.entry? key with
  | none => rfl
  | some entry =>
    dsimp only [Option.map_some]
    rw [← isLive_of_stored (stored_of_entry h he), erase_storedAt]
    split <;> rfl

theorem withRoom_storedAt (h : cache.AllStoredAt now) (t : Instant) (key : String) :
    (cache.storedAt t).withRoom t key = (cache.withRoom now key).storedAt t := by
  have live : (Cache.entry? (cache.storedAt t) key).any ((cache.storedAt t).isLive t) = (cache.entry? key).any (cache.isLive now) := by
    rw [entry_storedAt]
    cases he : cache.entry? key with
    | none => rfl
    | some entry => exact (isLive_of_stored (stored_of_entry h he)).symm
  have size : (cache.storedAt t).entries.length = cache.entries.length := List.length_map _
  unfold withRoom
  rw [live, erase_storedAt, size, show (cache.storedAt t).maxLength = cache.maxLength from rfl]
  split
  · split
    · rfl
    · unfold storedAt
      dsimp only
      rw [List.map_drop]
  · rfl

theorem insert_storedAt (h : cache.AllStoredAt now) (t : Instant) (key : String) (records : List String) :
    (cache.storedAt t).insert t key records = (cache.insert now key records).storedAt t := by
  unfold insert
  dsimp only
  rw [withRoom_storedAt h, entry_storedAt, Option.isSome_map]
  split
  · unfold storedAt
    dsimp only
    rw [List.map_map, List.map_map]
    congr 1
    refine List.map_congr_left fun entry _ => ?_
    dsimp only [Function.comp]
    split <;> rfl
  · unfold storedAt
    dsimp only
    rw [List.map_append]
    rfl

end Cache

/-- The state with all entries of its cache put in at one time. -/
def ClientState.storedAt (t : Instant) (s : ClientState) : ClientState := { s with cache := s.cache.storedAt t }

/-! ### What is given -/

/-- All texts that the resolver gives are made of characters with a property. -/
def Resolver.GivesTexts (p : Char → Prop) (resolver : Resolver) : Prop :=
  ∀ calls q given, resolver calls q = .ok given → ∀ text ∈ readReply q.type given, MadeOf p text

/-- A zone whose records are made of characters with a property gives such texts. -/
theorem givesTexts_resolver {p : Char → Prop} {zone : Zone}
    (h : ∀ named ∈ zone, ∀ typed ∈ named.2, ∀ record ∈ typed.2.records,
      MadeOf p record.data ∧ ∀ text ∈ record.joinedText?, MadeOf p text) : zone.resolver.GivesTexts p := by
  intro calls q given hg text ht
  obtain ⟨named, hn, typed, hty, -, held⟩ := exists_of_resolver hg
  unfold readReply at ht
  split at ht
  · obtain ⟨record, hr, hj⟩ := List.mem_filterMap.mp ht
    exact (h named hn typed hty record (held record hr)).2 text hj
  · obtain ⟨record, hr, rfl⟩ := List.mem_map.mp ht
    exact (h named hn typed hty record (held record hr)).1

end Dns

namespace Pairing

/-- What the resolver gives may be given to both checks. -/
structure Gives (P : Pairing) (resolver : Resolver) : Prop where
  texts : ∀ calls q given, resolver calls q = .ok given → ∀ text ∈ readReply q.type given, P.Suits q.type text
  errors : ∀ calls q e, resolver calls q = .error e → P.Warned e

/-- The answer may be given to both checks. -/
def Given (P : Pairing) (q : Question) : Answer → Prop
  | .ok texts => ∀ text ∈ texts, P.Suits q.type text
  | .error e => P.Warned e

theorem Gives.fits {P : Pairing} {resolver : Resolver} (h : P.Gives resolver) : resolver.Fits P.Given where
  reply calls q _ := by
    cases hg : resolver calls q with
    | error e => exact h.errors calls q e hg
    | ok given => exact h.texts calls q given hg
  same q q' records hq hq' hk given text ht := by
    rw [← type_eq_of_key_eq hq hq' hk]
    exact given text ht

end Pairing

namespace Dns

namespace Client

/-- The client at another time. -/
def withTime (client : Client) (now : Instant) : Client := { client with now }

section
variable {client : Client} {q : Question} {s : ClientState} {fits : Question → Answer → Prop}

/-! ### Clients at two times -/

section
variable (t : Instant) (hs : s.cache.AllStoredAt client.now)
include hs

theorem stored_withTime (q : Question) :
    (client.withTime t).stored q (s.storedAt t) =
      ((client.stored q s).1, (client.stored q s).2.storedAt t) := by
  unfold stored
  show (if client.caching then (s.cache.storedAt t).find t (key q) else (none, s.cache.storedAt t)) = _
  rw [Cache.find_storedAt hs]
  split <;> rfl

theorem call_withTime (q : Question) (settings : CallSettings) :
    (client.withTime t).call q settings (s.storedAt t) =
      ((client.call q settings s).1, (client.call q settings s).2.storedAt t) := by
  obtain ⟨resolver, now, options, caching⟩ := client
  have inserted := Cache.insert_storedAt hs t (key q)
  unfold call withTime ClientState.storedAt
  dsimp only at inserted ⊢
  cases resolver s.calls q with
  | error e => rfl
  | ok given =>
    cases caching with
    | false => rfl
    | true => exact congrArg (fun cache => (_, ClientState.mk cache _)) (inserted _)

theorem attempt_withTime (q : Question) :
    (client.withTime t).attempt q (s.storedAt t) =
      ((client.attempt q s).1, (client.attempt q s).2.storedAt t) := by
  have kept : (client.stored q s).2.AllStoredAt client.now := fun entry he => hs entry (mem_of_mem_stored he)
  rw [attempt_eq, attempt_eq, stored_withTime t hs, show (client.withTime t).options = client.options from rfl]
  dsimp only
  cases (client.stored q s).1 with
  | some records => rfl
  | none =>
    cases client.options.settings with
    | error e => rfl
    | ok settings => exact @call_withTime client { s with cache := (client.stored q s).2 } t kept q settings

/-- A call puts its reply in now. -/
theorem attempt_stored (q : Question) : (client.attempt q s).2.cache.AllStoredAt client.now := by
  have kept : (client.stored q s).2.AllStoredAt client.now := fun entry he => hs entry (mem_of_mem_stored he)
  refine attempt_cases (fun _ _ => kept) (fun _ _ => kept) fun settings _ => ?_
  unfold call
  dsimp only
  split
  · exact kept
  · dsimp only
    split
    · intro entry he
      rcases Cache.eq_or_mem_of_mem_insert he with rfl | he
      · rfl
      · exact kept entry he
    · exact kept

theorem answers_stored (q : Question) : (client.answers q s).2.cache.AllStoredAt client.now :=
  (answer_of_attempts (I := fun s => s.cache.AllStoredAt client.now) (M := fun _ => True)
    (fun _ _ hs => ⟨attempt_stored hs _, trivial⟩) _ hs).1

theorem answer_withTime (retries : Nat) (q : Question) :
    (client.withTime t).answer retries q (s.storedAt t) =
      ((client.answer retries q s).1, (client.answer retries q s).2.storedAt t) := by
  induction retries generalizing q s with
  | zero =>
    rw [answer, answer]
    exact attempt_withTime t hs _
  | succ retries ih =>
    have kept := attempt_stored hs { q with name := Domain.normalized q.name }
    rw [answer, answer, attempt_withTime t hs]
    generalize client.attempt { q with name := Domain.normalized q.name } s = ran at kept
    obtain ⟨reply, s₁⟩ := ran
    rcases reply with e | texts
    · cases e with
      | lifetimeExpired after => exact ih kept _
      | _ => rfl
    · rfl

end

/-- From states made of those of the first client, the second one answers as the first does, and what their caches hold
fits the questions. -/
structure Follows (fits : Question → Answer → Prop) (client client' : Client) (moved : ClientState → ClientState)
    (kept : ClientState → Prop) : Prop where
  holds : ∀ s, kept s → s.cache.Holds fits
  keep : ∀ q s, q.Standard → kept s → kept (client.answers q s).2
  same : ∀ q s, q.Standard → kept s → client'.answers q (moved s) = ((client.answers q s).1, moved (client.answers q s).2)

section
variable (hr : client.resolver.Fits fits)
  (unset : ∀ q cause, client.options.settings = .error cause → fits q (.error (.badTimeout cause)))
include hr unset

theorem follows_self : client.Follows fits client id (·.cache.Holds fits) where
  holds _ hs := hs
  keep _ _ hq hs := (answer_fits hr unset _ hq hs).1
  same _ _ _ _ := rfl

theorem follows_withTime (t : Instant) : client.Follows fits (client.withTime t) (·.storedAt t)
    fun s => s.cache.Holds fits ∧ s.cache.AllStoredAt client.now where
  holds _ hs := hs.1
  keep q _ hq hs := ⟨(answer_fits hr unset _ hq hs.1).1, answers_stored hs.2 q⟩
  same q _ _ hs := answer_withTime t hs.2 _ q

end

end

/-! ### Runs of two clients -/

variable {P : Pairing} {client client' : Client} {moved : ClientState → ClientState} {kept : ClientState → Prop}

/-- A client that answers one check, and a client that answers the other from states made of those of the first. -/
def runs (client client' : Client) (moved : ClientState → ClientState) (kept : ClientState → Prop)
    (context context' : Context) : Runs ClientState ClientState where
  answer := client.answers
  answer' := client'.answers
  related s s' := s' = moved s ∧ kept s
  context := context
  context' := context'

theorem given_unset (hP : P.Lawful) (q : Question) (cause : NumeralError) (_ : client.options.settings = .error cause) :
    P.Given q (.error (.badTimeout cause)) := fun hx =>
  hP.spelt_of_printed hx (NumeralError.printed_message cause)

theorem runs_paired (hP : P.Lawful) (hr : P.Gives client.resolver)
    (hf : client.Follows P.Given client' moved kept) {context context' : Context} (hc : P.Contexts context context') :
    (client.runs client' moved kept context context').Paired P := by
  have given (q : Question) (s) (hq : q.Standard) (hs : kept s) : P.Given q (client.answers q s).1 := by
    obtain ⟨name, given⟩ := (answer_fits hr.fits (given_unset hP) client.options.retries.toNat hq (hf.holds s hs)).2
    exact given
  have answered : ∀ q q' s, q.Standard → P.Asks q q' → kept s →
      client'.answers q' (moved s) = ((client.answers q s).1, moved (client.answers q s).2) := by
    intro q q' s hq hqq hs
    have name : Domain.normalized q.name = Domain.normalized q'.name := hqq.name.elim (congrArg _) (hP.normalized _ _)
    rw [show client'.answers q' = client'.answers q from
      funext fun s => answer_renamed (by rw [name, hqq.type, hqq.purpose]) _ s]
    exact hf.same q s hq hs
  refine { hc with same := ?_, keep := ?_, suits := ?_, warned := ?_ }
  · rintro q q' s _ hq hqq ⟨rfl, hs⟩
    exact (congrArg Prod.fst (answered q q' s hq hqq hs)).symm
  · rintro q q' s _ hq hqq ⟨rfl, hs⟩
    exact ⟨congrArg Prod.snd (answered q q' s hq hqq hs), hf.keep q s hq hs⟩
  · rintro q s _ texts hq ⟨-, hs⟩ ht
    have suit := given q s hq hs
    rw [show (client.answers q s).1 = .ok texts from ht] at suit
    exact suit
  · rintro q s _ e hq ⟨-, hs⟩ he
    have suit := given q s hq hs
    rw [show (client.answers q s).1 = .error e from he] at suit
    exact suit

end Client

end Dns

/-! ### Checks of texts -/

namespace Pairing

variable {P : Pairing} {receiver receiver' : Receiver} {ip domain domain' sender sender' helo helo' : String}

section
variable (hP : P.Lawful) (hr : P.Receivers receiver receiver') (hip : P.explained → P.Spelt ip)
  (hs : P.Names sender sender') (hh : P.Names helo helo')
include hP hr hip hs hh

/-- From paired texts, both contexts can be had or neither. -/
theorem ofText_paired :
    (∃ f, Context.ofText receiver ip sender helo = .error f ∧ Context.ofText receiver' ip sender' helo' = .error f) ∨
      ∃ context context', Context.ofText receiver ip sender helo = .ok context ∧
        Context.ofText receiver' ip sender' helo' = .ok context' ∧ P.Contexts context context' := by
  have default : P.Names Context.defaultLocalPart Context.defaultLocalPart := hP.names_plain (by decide)
  have split := hP.splitSender hs
  unfold Context.ofText
  generalize Context.splitSender sender = parts at split
  generalize Context.splitSender sender' = parts' at split
  obtain ⟨localPart, domain⟩ := split
  cases ha : Address.ofText? ip with
  | none => exact .inl ⟨_, rfl, rfl⟩
  | some address =>
    refine .inr ⟨_, _, rfl, rfl, { hr with address := rfl, client := ?_, localPart := ?_, senderDomain := domain, helo := hh }⟩
    · exact fun hx => Address.madeOf_text_unmapped hP.plain (hip hx) ha
    · by_cases he : parts.1 = ""
      · rw [if_pos he, if_pos (localPart.eq_empty_iff.mp he)]
        exact default
      · rw [if_neg he, if_neg (mt localPart.eq_empty_iff.mpr he)]
        exact localPart

variable {client : Client} (hg : P.Gives client.resolver) (hd : P.Names domain domain') {s : ClientState}
include hg hd

/-- If one client follows the other, checks of paired texts come to the same, and the client still does. -/
theorem checkHost_paired {client' : Client} {moved : ClientState → ClientState} {kept : ClientState → Prop}
    (hf : client.Follows P.Given client' moved kept) (hk : kept s) :
    let ran := (checkHost receiver ip domain sender helo).run client.answers s
    let ran' := (checkHost receiver' ip domain' sender' helo').run client'.answers (moved s)
    P.Ends ran.1 ran'.1 ∧ ran'.2 = moved ran.2 ∧ kept ran.2 ∧
      ∀ context context', Context.ofText receiver ip sender helo = .ok context →
        Context.ofText receiver' ip sender' helo' = .ok context' →
        ((context.check domain).run client.answers s).1.counters =
          ((context'.check domain').run client'.answers (moved s)).1.counters := by
  rcases ofText_paired hP hr hip hs hh with ⟨f, hx, hx'⟩ | ⟨context, context', hc, hc', paired⟩
  · rw [checkHost_of_error hx, checkHost_of_error hx']
    refine ⟨⟨rfl, fun _ => ⟨rfl, fun _ => nofun⟩⟩, rfl, hk, fun context _ hc => ?_⟩
    rw [hx] at hc
    cases hc
  · obtain ⟨ends, counters, same, held⟩ := check_paired (Client.runs_paired hP hg hf paired) hP hd ⟨rfl, hk⟩
    rw [run_checkHost hc, run_checkHost hc']
    refine ⟨ends, same, held, fun _ _ h h' => ?_⟩
    cases hc.symm.trans h
    cases hc'.symm.trans h'
    exact counters

/-- From an empty cache, checks of paired texts at two times make the same calls, too. -/
theorem checkHost_paired_of_empty (t : Instant) (empty : s.cache.entries = []) :
    let ran := (checkHost receiver ip domain sender helo).run client.answers s
    let ran' := (checkHost receiver' ip domain' sender' helo').run (client.withTime t).answers s
    P.Ends ran.1 ran'.1 ∧ ran.2.calls = ran'.2.calls ∧
      ∀ context context', Context.ofText receiver ip sender helo = .ok context →
        Context.ofText receiver' ip sender' helo' = .ok context' →
        ((context.check domain).run client.answers s).1.counters =
          ((context'.check domain').run (client.withTime t).answers s).1.counters := by
  have same : s.storedAt t = s := by
    unfold ClientState.storedAt Cache.storedAt
    rw [empty, List.map_nil, ← empty]
  have stored : s.cache.AllStoredAt client.now := fun entry he => by
    rw [empty] at he
    cases he
  obtain ⟨ends, state, -, counters⟩ :=
    checkHost_paired hP hr hip hs hh hg hd (Client.follows_withTime hg.fits (Client.given_unset hP) t)
      ⟨Cache.holds_of_empty empty, stored⟩
  rw [same] at ends state counters
  exact ⟨ends, by rw [state]; rfl, counters⟩

end

end Pairing

end SenderPolicy
