import SenderPolicy.Proofs.AddressAnswers
import SenderPolicy.Proofs.Lockstep
import SenderPolicy.Proofs.Metered

/-! The order of records makes no difference to a check. Of the answers to its questions, an evaluation uses only what does
not depend on their order: sorted addresses and mail hosts, the single record of a policy and the single text of an
explanation. What may change is which of several unreadable mail records is reported. -/

namespace SenderPolicy

open Dns Evaluation

variable {σ τ α β ε : Type} {proper : Prop}

/-! ### What is used of alike answers -/

/-- Lists of the same elements are equal or have at least two. -/
theorem eq_or_several_of_perm {l l' : List α} (h : l.Perm l') :
    l = l' ∨ ∃ x y rest x' y' rest', l = x :: y :: rest ∧ l' = x' :: y' :: rest' := by
  rcases l with _ | ⟨x, _ | ⟨y, rest⟩⟩
  · exact .inl (List.nil_perm.mp h).symm
  · exact .inl (List.singleton_perm.mp h)
  · rcases l' with _ | ⟨x', _ | ⟨y', rest'⟩⟩
    · cases List.perm_nil.mp h
    · cases List.perm_singleton.mp h
    · exact .inr ⟨x, y, rest, x', y', rest', rfl, rfl⟩

theorem Record.select_of_perm (domain : String) {texts texts' : List String} (h : texts.Perm texts') :
    select domain texts = select domain texts' := by
  unfold select
  rcases eq_or_several_of_perm (h.filter isPolicy) with same | ⟨x, y, rest, x', y', rest', hl, hl'⟩
  · rw [same]
  · rw [hl, hl']

namespace Dns

section
variable {reply reply' : Answer}

theorem Answer.Alike.foundRecords {type : RecordType} (h : Answer.Alike proper type reply reply') :
    (∃ e, Dns.foundRecords reply = .error e ∧ Dns.foundRecords reply' = .error e) ∨
      ∃ texts texts', Dns.foundRecords reply = .ok texts ∧ Dns.foundRecords reply' = .ok texts' ∧ texts.Perm texts' ∧
        (type = .ptr → texts = texts') ∧
        (proper → type = .mx → ∀ text ∈ texts, ∃ host, MailHost.ofText text = .ok host) := by
  cases h with
  | error e =>
    cases e with
    | noAnswer => exact .inr ⟨[], [], rfl, rfl, .refl _, fun _ => rfl, fun _ _ _ => nofun⟩
    | _ => exact .inl ⟨_, rfl, rfl⟩
  | ok perm same read => exact .inr ⟨_, _, rfl, rfl, perm, same, read⟩

theorem Answer.Alike.sortedRecords {type : RecordType} (h : Answer.Alike proper type reply reply') :
    (Dns.foundRecords reply).map (sorted textLE) = (Dns.foundRecords reply').map (sorted textLE) := by
  rcases h.foundRecords with ⟨e, he, he'⟩ | ⟨texts, texts', hf, hf', perm, -⟩
  · rw [he, he']
  · rw [hf, hf']
    exact congrArg Except.ok (textLE_linearlyOrders.sorted_eq_of_perm perm)

theorem Answer.Alike.pointers (h : Answer.Alike proper .ptr reply reply') :
    Dns.foundRecords reply = Dns.foundRecords reply' := by
  rcases h.foundRecords with ⟨e, he, he'⟩ | ⟨texts, texts', hf, hf', -, same, -⟩
  · rw [he, he']
  · rw [hf, hf', same rfl]

/-- Mail hosts are the same, unless some mail records cannot be read. -/
theorem Answer.Alike.mailHosts (h : Answer.Alike proper .mx reply reply') :
    (Dns.foundRecords reply).bind readMailHosts = (Dns.foundRecords reply').bind readMailHosts ∨
      ¬ proper ∧ ∃ e e', e ≠ .noSuchDomain ∧ e' ≠ .noSuchDomain ∧
        (Dns.foundRecords reply).bind readMailHosts = .error e ∧ (Dns.foundRecords reply').bind readMailHosts = .error e' := by
  rcases h.foundRecords with ⟨e, he, he'⟩ | ⟨texts, texts', hf, hf', perm, -, read⟩
  · rw [he, he']
    exact .inl rfl
  · rw [hf, hf']
    refine (readMailHosts_of_perm perm).imp_right ?_
    rintro ⟨⟨text, hm, bad⟩, e, e', he, he'⟩
    refine ⟨fun hp => ?_, e, e', readMailHosts_error_ne he, readMailHosts_error_ne he', he, he'⟩
    obtain ⟨host, hh⟩ := read hp rfl text hm
    exact bad host hh

theorem Answer.Alike.readFound (h : Answer.Alike proper .txt reply reply') (strict : Bool) (domain : String) :
    Record.readFound strict domain reply = Record.readFound strict domain reply' := by
  unfold Record.readFound
  rcases h.foundRecords with ⟨e, he, he'⟩ | ⟨texts, texts', hf, hf', perm, -⟩
  · rw [he, he']
  · rw [hf, hf']
    dsimp only
    rw [Record.select_of_perm _ perm]

end

/-! ### Inquiries -/

section
variable {answer : Question → σ → Answer × σ} {answer' : Question → τ → Answer × τ} {R : σ → τ → Prop}

/-- From related states, both ways to answer lead the inquiry to the same value and to related states. -/
def Inquiry.OrderBlind (answer : Question → σ → Answer × σ) (answer' : Question → τ → Answer × τ) (R : σ → τ → Prop)
    (i : Inquiry α) : Prop :=
  ∀ s s', R s s' → (i.run answer s).1 = (i.run answer' s').1 ∧ R (i.run answer s).2 (i.run answer' s').2

theorem Inquiry.orderBlind_done (a : α) : (Inquiry.done a).OrderBlind answer answer' R := fun _ _ hs => ⟨rfl, hs⟩

theorem Inquiry.OrderBlind.bind {i : Inquiry α} {f : α → Inquiry β} (h : i.OrderBlind answer answer' R)
    (hf : ∀ a, (f a).OrderBlind answer answer' R) : (i.bind f).OrderBlind answer answer' R := by
  intro s s' hs
  obtain ⟨same, kept⟩ := h s s' hs
  rw [Inquiry.run_bind, Inquiry.run_bind, ← same]
  exact hf _ _ _ kept

theorem bind_orderBlind {e : ExceptT ε Inquiry α} {f : α → ExceptT ε Inquiry β} (h : e.run.OrderBlind answer answer' R)
    (hf : ∀ a, (f a).run.OrderBlind answer answer' R) : (e >>= f).run.OrderBlind answer answer' R :=
  h.bind fun r => by
    cases r with
    | error x => exact Inquiry.orderBlind_done _
    | ok a => exact hf a

theorem lift_orderBlind {i : Inquiry α} (h : i.OrderBlind answer answer' R) :
    (ExceptT.lift i : ExceptT ε Inquiry α).run.OrderBlind answer answer' R :=
  h.bind fun _ => Inquiry.orderBlind_done _

variable (hi : Dns.InStep answer answer' proper R) {purpose : Purpose}
include hi

theorem addresses_orderBlind (name : String) (family : Family) :
    (addresses purpose name [family]).run.OrderBlind answer answer' R := by
  intro s s' hs
  have standard : Question.Standard ⟨name, addressType family, purpose⟩ := addressType_ne_other family
  rw [run_addresses, run_addresses]
  exact ⟨(hi.alike _ s s' standard hs).sortedRecords, hi.keep _ s s' standard hs⟩

theorem pointers_orderBlind (reverseName : Option String) : (pointers purpose reverseName).run.OrderBlind answer answer' R := by
  cases reverseName with
  | none => exact Inquiry.orderBlind_done _
  | some name =>
    have asked : (records ⟨name, .ptr, purpose⟩).run.OrderBlind answer answer' R := by
      intro s s' hs
      have standard : Question.Standard ⟨name, .ptr, purpose⟩ := fun _ => nofun
      rw [run_records, run_records]
      exact ⟨(hi.alike _ s s' standard hs).pointers, hi.keep _ s s' standard hs⟩
    refine asked.bind fun r => ?_
    rcases r with e | found
    · cases e <;> exact Inquiry.orderBlind_done _
    · exact Inquiry.orderBlind_done _

theorem confirmed_orderBlind {address : Address} :
    ∀ names, (confirmed purpose address names).run.OrderBlind answer answer' R
  | [] => Inquiry.orderBlind_done _
  | name :: rest => by
    have later : (confirmed purpose address rest).run.OrderBlind answer answer' R := confirmed_orderBlind rest
    refine bind_orderBlind (lift_orderBlind (addresses_orderBlind hi name _)) fun r => ?_
    cases r with
    | error e => exact later
    | ok found =>
      exact bind_orderBlind (Inquiry.orderBlind_done _) fun matched =>
        bind_orderBlind later fun names => Inquiry.orderBlind_done _

theorem confirmedNames_orderBlind (limit : Int) (address : Address) :
    (confirmedNames purpose limit address).run.OrderBlind answer answer' R := by
  refine bind_orderBlind (lift_orderBlind (pointers_orderBlind hi _)) fun r => ?_
  cases r with
  | error e => exact Inquiry.orderBlind_done _
  | ok names => exact confirmed_orderBlind hi _

end

end Dns

/-! ### Evaluations -/

/-- Worlds in which the same has been counted, with related states of whoever answers. -/
structure World.Alike (R : σ → τ → Prop) (w : World σ) (w' : World τ) : Prop where
  counters : w.counters = w'.counters
  state : R w.state w'.state

/-- Outcomes that are the same. Unless a condition holds, a lookup that fails may give another reason. -/
inductive SameOutcome (proper : Prop) : Except Failure α → Except Failure α → Prop
  | same (r : Except Failure α) : SameOutcome proper r r
  | temporary (h : ¬ proper) (name : String) (e e' : LookupError) :
      SameOutcome proper (.error (.policy (.temporary name e))) (.error (.policy (.temporary name e')))

theorem SameOutcome.eq {r r' : Except Failure α} (h : SameOutcome proper r r') (hp : proper) : r = r' := by
  cases h with
  | same => rfl
  | temporary h => exact absurd hp h

/-- The reason for which a lookup fails makes no difference to the result of a check. -/
theorem SameOutcome.result {r r' : Except Failure Verdict} (h : SameOutcome proper r r') (c : Counters) :
    (Outcome.ofResult (r, c)).verdict.map (·.result) = (Outcome.ofResult (r', c)).verdict.map (·.result) := by
  cases h <;> rfl

namespace Evaluation

section
variable {context : Context} {R : σ → τ → Prop}

section
variable (answer : Question → σ → Answer × σ) (answer' : Question → τ → Answer × τ) (proper : Prop) (R : σ → τ → Prop)
  (context : Context)

/-- From worlds alike, both ways to answer lead the evaluation to the same outcome and to worlds alike. -/
def OrderBlind (e : Evaluation α) : Prop :=
  ∀ w w', World.Alike R w w' → SameOutcome proper (exec answer context e w).1 (exec answer' context e w').1 ∧
    World.Alike R (exec answer context e w).2 (exec answer' context e w').2

end

variable {answer : Question → σ → Answer × σ} {answer' : Question → τ → Answer × τ}

theorem orderBlind_pure (a : α) : OrderBlind answer answer' proper R context (pure a) := fun _ _ hw => ⟨.same _, hw⟩

theorem orderBlind_throw (x : Failure) : OrderBlind answer answer' proper R context (throw x : Evaluation α) :=
  fun _ _ hw => ⟨.same _, hw⟩

theorem orderBlind_countLookup : OrderBlind answer answer' proper R context countLookup := fun w w' hw => by
  have counters : w.lookedUp.counters = w'.lookedUp.counters := by
    unfold World.lookedUp
    rw [hw.counters]
  rw [exec_countLookup, exec_countLookup, counters]
  exact ⟨.same _, counters, hw.state⟩

theorem orderBlind_countVoidLookup : OrderBlind answer answer' proper R context countVoidLookup := fun w w' hw => by
  have counters : w.foundNothing.counters = w'.foundNothing.counters := by
    unfold World.foundNothing
    rw [hw.counters]
  rw [exec_countVoidLookup, exec_countVoidLookup, counters]
  exact ⟨.same _, counters, hw.state⟩

theorem orderBlind_ofInquiry {i : Inquiry α} (h : i.OrderBlind answer answer' R) :
    OrderBlind answer answer' proper R context (ofInquiry i) := fun w w' hw => by
  obtain ⟨same, kept⟩ := h w.state w'.state hw.state
  rw [exec_ofInquiry, exec_ofInquiry, same]
  exact ⟨.same _, hw.counters, kept⟩

theorem OrderBlind.reading {f : Context → Evaluation α} (h : OrderBlind answer answer' proper R context (f context)) :
    OrderBlind answer answer' proper R context (read >>= f) := h

theorem OrderBlind.bind {e : Evaluation α} {f : α → Evaluation β} (h : OrderBlind answer answer' proper R context e)
    (hf : ∀ a, OrderBlind answer answer' proper R context (f a)) : OrderBlind answer answer' proper R context (e >>= f) := by
  intro w w' hw
  obtain ⟨same, kept⟩ := h w w' hw
  rcases he : exec answer context e w with ⟨r, w₁⟩
  rcases he' : exec answer' context e w' with ⟨r', w₁'⟩
  rw [he, he'] at same kept
  cases same with
  | same =>
    cases r with
    | error x =>
      rw [exec_bind_of_error he, exec_bind_of_error he']
      exact ⟨.same _, kept⟩
    | ok a =>
      rw [exec_bind_of_ok he, exec_bind_of_ok he']
      exact hf a w₁ w₁' kept
  | temporary h name cause cause' =>
    rw [exec_bind_of_error he, exec_bind_of_error he']
    exact ⟨.temporary h name cause cause', kept⟩

theorem OrderBlind.uncounted {e : Evaluation α} (h : OrderBlind answer answer' proper R context e) :
    OrderBlind answer answer' proper R context (uncounted e) := fun w w' hw => by
  rw [exec_uncounted, exec_uncounted]
  exact ⟨(h w w' hw).1, hw.counters, (h w w' hw).2.state⟩

theorem OrderBlind.entering {policy : Evaluation Verdict} (h : OrderBlind answer answer' proper R context policy)
    (reference : Reference) (target : String) :
    OrderBlind answer answer' proper R context (entering reference target policy) := fun w w' hw => by
  obtain ⟨same, kept⟩ := h w w' hw
  rw [exec_entering, exec_entering]
  refine ⟨?_, kept⟩
  dsimp only
  generalize (exec answer context policy w).1 = r at same
  generalize (exec answer' context policy w').1 = r' at same
  cases same with
  | same => exact .same _
  | temporary h name e e' => exact .temporary h name e e'

/-- All errors on the way to an explanation come to the same: there is none. -/
theorem OrderBlind.excused {e : Evaluation (Option String)} (h : OrderBlind answer answer' proper R context e) :
    OrderBlind answer answer' proper R context (tryCatch e excused) := fun w w' hw => by
  obtain ⟨same, kept⟩ := h w w' hw
  rw [exec_tryCatch, exec_tryCatch]
  generalize exec answer context e w = ran at same kept
  generalize exec answer' context e w' = ran' at same kept
  obtain ⟨r, w₁⟩ := ran
  obtain ⟨r', w₁'⟩ := ran'
  cases same with
  | same =>
    rcases r with (x | f) | text
    · exact ⟨.same _, kept⟩
    · exact ⟨.same _, kept⟩
    · exact ⟨.same _, kept⟩
  | temporary => exact ⟨.same _, kept⟩

theorem OrderBlind.askedFor {purpose : Purpose} {e : Evaluation α}
    (h : OrderBlind (fun q => answer { q with purpose }) (fun q => answer' { q with purpose }) proper R context e) :
    OrderBlind answer answer' proper R context (askedFor purpose e) := fun w w' hw => by
  rw [exec_askedFor, exec_askedFor]
  exact h w w' hw

section
variable (hi : Dns.InStep answer answer' proper R)
include hi

theorem mailHosts_orderBlind {target : String} {f : Except LookupError (List MailHost) → Evaluation α}
    (he : ∀ e, e ≠ .noSuchDomain → f (.error e) = throw (.policy (.temporary target e)))
    (hf : ∀ r, OrderBlind answer answer' proper R context (f r)) :
    OrderBlind answer answer' proper R context
      (attempt (records ⟨target, .mx, .mechanism⟩) >>= fun r => f (r.bind readMailHosts)) := by
  intro w w' hw
  have standard : Question.Standard ⟨target, .mx, .mechanism⟩ := fun _ => nofun
  have kept := hi.keep _ w.state w'.state standard hw.state
  unfold attempt
  rw [exec_bind, exec_bind, exec_ofInquiry, exec_ofInquiry, run_records, run_records]
  dsimp only
  rcases (hi.alike _ w.state w'.state standard hw.state).mailHosts with same | ⟨hp, e, e', hne, hne', hs, hs'⟩
  · rw [same]
    exact hf _ _ _ ⟨hw.counters, kept⟩
  · -- the first of the unreadable records is reported, and that may be another one
    rw [hs, hs', he e hne, he e' hne']
    exact ⟨.temporary hp target e e', hw.counters, kept⟩

/-- The text of a lookup that has found a single one. -/
def soleOf : Except LookupError (List String) → Option String
  | .ok [text] => some text
  | _ => none

theorem soleText_orderBlind (target : String) : OrderBlind answer answer' proper R context (soleText target) := by
  intro w w' hw
  have standard : Question.Standard ⟨target, .txt, .explanation⟩ := fun _ => nofun
  have ran : ∀ {υ : Type} (answer : Question → υ → Answer × υ) (w : World υ),
      exec answer context (soleText target) w =
        (.ok (soleOf (foundRecords (answer ⟨target, .txt, .explanation⟩ w.state).1)),
          ⟨w.counters, (answer ⟨target, .txt, .explanation⟩ w.state).2⟩) := fun answer w => by
    unfold soleText attempt texts
    rw [exec_bind, exec_ofInquiry, run_records]
    rcases foundRecords (answer ⟨target, .txt, .explanation⟩ w.state).1 with e | _ | ⟨text, _ | ⟨other, rest⟩⟩ <;> rfl
  rw [ran, ran]
  refine ⟨?_, hw.counters, hi.keep _ w.state w'.state standard hw.state⟩
  rcases (hi.alike _ w.state w'.state standard hw.state).foundRecords with ⟨e, he, he'⟩ | ⟨found, found', hf, hf', perm, -⟩
  · rw [he, he']
    exact .same _
  · rw [hf, hf']
    rcases eq_or_several_of_perm perm with same | ⟨x, y, rest, x', y', rest', hl, hl'⟩
    · rw [same]
      exact .same _
    · rw [hl, hl']
      exact .same _

theorem policyTerms_orderBlind (domain : String) : OrderBlind answer answer' proper R context (policyTerms domain) := by
  intro w w' hw
  rw [exec_policyTerms, exec_policyTerms]
  split
  · have standard : (Record.question domain).Standard := fun _ => nofun
    have same := (hi.alike (Record.question domain) w.state w'.state standard hw.state).readFound
      context.receiver.strict domain
    rw [same]
    exact ⟨.same _, hw.counters, hi.keep _ w.state w'.state standard hw.state⟩
  · exact ⟨.same _, hw⟩

end

/-- Metered evaluations use nothing of the answers that depends on the order of records. -/
theorem Metered.orderBlind {missable : Bool} {n : ENat} {e : Evaluation α} (h : Metered context.receiver.limits missable n e)
    (hi : Dns.InStep answer answer' proper R) : OrderBlind answer answer' proper R context e := by
  induction h generalizing answer answer' with
  | pure a => exact orderBlind_pure a
  | throw => exact orderBlind_throw _
  | reading _ ih => exact .reading (ih context rfl hi)
  | countVoidLookup => exact orderBlind_countVoidLookup
  | counted _ ih => exact orderBlind_countLookup.bind fun _ => ih hi
  | addresses host family => exact orderBlind_ofInquiry (addresses_orderBlind hi host family)
  | mailHosts target he _ ih => exact mailHosts_orderBlind hi he fun r => ih r hi
  | names address => exact orderBlind_ofInquiry (confirmedNames_orderBlind hi _ address)
  | text target => exact soleText_orderBlind hi target
  | terms domain => exact policyTerms_orderBlind hi domain
  | bind _ _ ih ihf => exact (ih hi).bind fun a => ihf a hi
  | entering _ ih => exact (ih hi).entering _ _
  | explaining _ _ ih ihf =>
    have aside := hi.askedFor .explanation
    exact .askedFor (.excused ((ih aside).uncounted.bind fun a => ihf a aside))
  | dearer _ _ ih => exact ih hi

end

end Evaluation

/-! ### Checks -/

section
variable {client : Client} {resolver' : Resolver} {receiver : Receiver} {ip domain sender helo : String}

/-- Runs of a context's check from an empty cache, if another resolver gives the records in another order. -/
theorem check_reordered (context : Context) (hr : client.resolver.Reorders resolver') {state : ClientState}
    (empty : state.cache.entries = []) :
    let ran := (context.check domain).run client.answers state
    let ran' := (context.check domain).run (client.withResolver resolver').answers state
    ran.2.calls = ran'.2.calls ∧ ran.1.counters = ran'.1.counters ∧
      ran.1.verdict.map (·.result) = ran'.1.verdict.map (·.result) ∧
      (client.resolver.GivesMailHosts → ran.1.verdict = ran'.1.verdict) := by
  have checked : OrderBlind client.answers (client.withResolver resolver').answers client.resolver.GivesMailHosts
      (ClientState.InStep client.resolver.GivesMailHosts) context (checkedPolicy domain) :=
    .reading ((policyOf_metered _ domain true).orderBlind (Client.answers_inStep hr id))
  have started : state.InStep client.resolver.GivesMailHosts state := ⟨rfl, rfl, rfl, by rw [empty]; exact .nil⟩
  obtain ⟨same, counters, kept⟩ := checked (.fresh state) (.fresh state) ⟨rfl, started⟩
  rw [Context.run_check, Context.run_check]
  dsimp only
  rw [Outcome.counters_ofResult, Outcome.counters_ofResult, ← counters]
  exact ⟨kept.calls, rfl, same.result _, fun mailHosts => by rw [same.eq mailHosts]⟩

/-- The order of records makes no difference to the calls that a check makes from an empty cache, to its result and to
what it counts, nor to its explanation if all mail records can be read. -/
theorem checkHost_reordered (hr : client.resolver.Reorders resolver') {state : ClientState}
    (empty : state.cache.entries = []) :
    let ran := (checkHost receiver ip domain sender helo).run client.answers state
    let ran' := (checkHost receiver ip domain sender helo).run (client.withResolver resolver').answers state
    ran.2.calls = ran'.2.calls ∧ ran.1.map (·.result) = ran'.1.map (·.result) ∧
      (∀ context, Context.ofText receiver ip sender helo = .ok context →
        ((context.check domain).run client.answers state).1.counters =
          ((context.check domain).run (client.withResolver resolver').answers state).1.counters) ∧
      (client.resolver.GivesMailHosts → ran.1 = ran'.1) := by
  cases hc : Context.ofText receiver ip sender helo with
  | error f =>
    rw [checkHost_of_error hc, Inquiry.run_done, Inquiry.run_done]
    refine ⟨rfl, rfl, ?_, fun _ => rfl⟩
    rintro context ⟨⟩
  | ok context =>
    obtain ⟨calls, counters, result, verdict⟩ := @check_reordered client resolver' domain context hr state empty
    rw [run_checkHost hc, run_checkHost hc]
    refine ⟨calls, result, ?_, verdict⟩
    rintro context' ⟨⟩
    exact counters

end

/-! ### Resolvers that rotate records -/

/-- The resolver with the records of each reply in reverse, except for names of hosts. -/
def Dns.Resolver.reversed (resolver : Resolver) : Resolver := fun calls q =>
  if q.type = .ptr then resolver calls q else (resolver calls q).map List.reverse

theorem reorders_reversed (resolver : Resolver) : resolver.Reorders resolver.reversed := by
  intro calls q
  unfold Resolver.reversed
  split
  · cases resolver calls q with
    | error e => exact .error e
    | ok given => exact .ok (.refl given) fun _ => rfl
  · rename_i ht
    cases resolver calls q with
    | error e => exact .error e
    | ok given => exact .ok (List.reverse_perm given).symm fun h => absurd h ht

/-- A zone whose mail records all have a preference and a host gives mail hosts. -/
theorem givesMailHosts_resolver {zone : Zone}
    (h : ∀ named ∈ zone, ∀ typed ∈ named.2, typed.1 = "MX" → ∀ record ∈ typed.2.records,
      (MailHost.ofText record.data).isOk) : zone.resolver.GivesMailHosts := by
  intro calls q given hq hg record hr
  obtain ⟨named, hn, typed, ht, htype, held⟩ := exists_of_resolver hg
  have read := h named hn typed ht (by rw [htype, hq]; rfl) record (held record hr)
  cases hm : MailHost.ofText record.data with
  | ok host => exact ⟨host, rfl⟩
  | error e =>
    rw [hm] at read
    cases read

/-- A zone with several records of each kind. -/
def rotatedZone : Zone :=
  [("example.com",
    [("TXT", .fixed (.ok [.text "site=1", .text "v=spf1 mx -all"])),
     ("MX", .fixed (.ok [.text "20 second.example.com.", .text "10 first.example.com."]))]),
   ("first.example.com", [("A", .fixed (.ok [.text "192.0.2.9", .text "192.0.2.5"]))])]

theorem checkHost_rotatedZone :
    let ran := (checkHost { clock := .whole 0 } "192.0.2.5" "example.com" "user@example.com" "").run
      (Client.ofZone rotatedZone).answers .unasked
    let ran' := (checkHost { clock := .whole 0 } "192.0.2.5" "example.com" "user@example.com" "").run
      ((Client.ofZone rotatedZone).withResolver rotatedZone.resolver.reversed).answers .unasked
    ran.2.calls = ran'.2.calls ∧ ran.1 = ran'.1 ∧ ran'.1 = .ok ⟨.pass, "Allowed sender IP: 192.0.2.5"⟩ := by
  obtain ⟨calls, -, -, verdict⟩ := @checkHost_reordered (Client.ofZone rotatedZone) rotatedZone.resolver.reversed
    { clock := .whole 0 } "192.0.2.5" "example.com" "user@example.com" "" (reorders_reversed _) .unasked rfl
  have readable : rotatedZone.resolver.GivesMailHosts := givesMailHosts_resolver (by decide +kernel)
  refine ⟨calls, verdict readable, ?_⟩
  decide +kernel

end SenderPolicy
