import SenderPolicy.Proofs.Coherence
import SenderPolicy.Proofs.Decision
import SenderPolicy.Proofs.Faults
import SenderPolicy.Proofs.InlineTexts

/-! Header lines that stay on one line. All that a header can show of a delivery on more than one line is the explanation of
the verdict. Explanations of a pass, a soft fail and a neutral result are always on one line; all others are if the resolver
gives no text with a line end, but what is looked up to explain a failure is shown as it is. -/

namespace SenderPolicy

open Dns Evaluation Text

variable {σ : Type}

theorem isInline_of_isBlank {c : Char} (h : isBlank c = false) : IsInline c := by
  constructor <;> rintro rfl <;> exact absurd h (by decide)

theorem inline_trimmed {s : String} (h : MadeOf IsInline s) : MadeOf IsInline (trimmed s) :=
  madeOf_ofList.mpr fun c hc => h c (mem_of_stripped hc)

/-! ### What a header shows -/

theorem inline_commentText_iff {s : String} : MadeOf IsInline (String.ofList (commentText s)) ↔ MadeOf IsInline s := by
  unfold commentText
  rw [madeOf_ofList, List.forall_mem_map]
  refine forall₂_congr fun c hc => ?_
  split
  · subst c
    exact iff_of_true (by decide) (by decide)
  · split
    · subst c
      exact iff_of_true (by decide) (by decide)
    · rfl

theorem inline_envelopeText {s : String} (h : MadeOf IsInline s) : MadeOf IsInline (String.ofList (envelopeText s)) :=
  madeOf_ofList.mpr fun c hc => h c (mem_of_stripped (mem_of_stripped (List.mem_filter.mp hc).1))

/-- A header of texts on one line is on one line if and only if the explanation is. -/
theorem Header.inline_text_iff {header : Header} (result : MadeOf IsInline header.result) (ip : MadeOf IsInline header.ip)
    (envelope : MadeOf IsInline header.envelope) (helo : MadeOf IsInline header.helo)
    (receiver : MadeOf IsInline header.receiver) (identity : MadeOf IsInline header.identity) :
    MadeOf IsInline header.text ↔ MadeOf IsInline header.explanation := by
  have comment : MadeOf IsInline (if String.ofList (commentText header.explanation) = "" then ""
      else s!" ({String.ofList (commentText header.explanation)})") ↔ MadeOf IsInline header.explanation := by
    refine Iff.trans ?_ inline_commentText_iff
    split
    · rename_i empty
      rw [empty]
    · simp only [madeOf_append, madeOf_toString]
      exact ⟨fun h => h.1.2, fun h => ⟨⟨inline_of_plain (by decide), h⟩, inline_of_plain (by decide)⟩⟩
  have shown : MadeOf IsInline (if header.receiver = "" then "" else s!" receiver={header.receiver};") := by
    split
    · exact inline_of_plain (by decide)
    · simp only [madeOf_append, madeOf_toString]
      exact ⟨⟨inline_of_plain (by decide), receiver⟩, inline_of_plain (by decide)⟩
  have start : MadeOf IsInline s!"Received-SPF: {header.result}" := by
    simp only [madeOf_append, madeOf_toString, result, and_true]
    exact inline_of_plain (by decide)
  have client : MadeOf IsInline
      s!" client-ip={header.ip}; envelope-from=\"{String.ofList (envelopeText header.envelope)}\"; " := by
    have sent := inline_envelopeText envelope
    simp only [madeOf_append, madeOf_toString, ip, sent, and_true]
    and_intros <;> exact inline_of_plain (by decide)
  have last : MadeOf IsInline s!"helo={header.helo}; identity={header.identity};" := by
    simp only [madeOf_append, madeOf_toString, helo, identity, and_true]
    and_intros <;> exact inline_of_plain (by decide)
  unfold text
  dsimp only
  rw [madeOf_append, madeOf_append, madeOf_append, madeOf_append, comment]
  exact ⟨fun h => h.1.1.1.2, fun h => ⟨⟨⟨⟨start, h⟩, shown⟩, client⟩, last⟩⟩

/-- A delivery whose texts are each on one line. -/
structure Delivery.OnLines (delivery : Delivery) : Prop where
  ip : MadeOf IsInline delivery.ip
  envelope : MadeOf IsInline delivery.envelope
  helo : MadeOf IsInline delivery.helo

theorem Report.inline_ofVerdict_iff {receiver : Receiver} (hr : MadeOf IsInline receiver.name) {delivery : Delivery}
    (hd : delivery.OnLines) (identity : Identity) (domain : String) (verdict : Verdict) :
    MadeOf IsInline (ofVerdict receiver delivery identity domain verdict).header ↔ MadeOf IsInline verdict.explanation := by
  have results : ∀ result : Result, MadeOf IsPlain result.text := by
    intro result
    cases result <;> decide
  have identities : ∀ identity : Identity, MadeOf IsPlain identity.text := by
    intro identity
    cases identity <;> decide
  refine Header.inline_text_iff (inline_of_plain (results _)) hd.ip hd.envelope hd.helo ?_ (inline_of_plain (identities _))
  show MadeOf IsInline (shownReceiver receiver)
  unfold shownReceiver
  split
  · exact inline_of_plain (by decide)
  · exact hr

/-! ### Explanations of decisions -/

theorem Context.inline_address {receiver : Receiver} {ip sender helo : String} {context : Context}
    (h : ofText receiver ip sender helo = .ok context) (hip : MadeOf IsInline ip) : MadeOf IsInline context.address.text := by
  unfold ofText at h
  split at h
  · cases h
  · rename_i address ha
    cases h
    exact Address.madeOf_text_unmapped (fun _ => isInline_of_plain) hip ha

namespace Visit

variable {answer : Question → σ → Answer × σ} {context : Context} {v : Visit σ} {verdict : Verdict} {w w' : World σ}

/-- The terms of a record are parted by white space, so they hold no line ends. -/
theorem inline_of_searches {found : Modifiers} {d : Directive} {rest : List Term}
    (h : v.Searches answer context found (.directive d :: rest) w) : MadeOf IsInline d.raw := by
  obtain ⟨record, terms, hread, -, within⟩ := exists_read_of_searches h
  have spelt := Record.speltIn_of_read (fun _ _ => trivial) hread (fun _ _ => trivial : MadeOf (fun _ => True) record)
  exact (spelt _ (within _ List.mem_cons_self)).2.mono fun _ => isInline_of_isBlank

variable (hc : MadeOf IsInline context.address.text)
include hc

theorem inline_directiveVerdict {d : Directive} (hd : MadeOf IsInline d.raw) {exp : Option Modifier} {domain : String}
    (h : Evaluation.exec answer context (directiveVerdict d exp domain) w = (.ok verdict, w'))
    (hr : verdict.result ≠ .fail) : MadeOf IsInline verdict.explanation := by
  have matching : MadeOf IsInline s!"Sender IP {context.address.text} matched {d.raw}" := by
    simp only [madeOf_append, madeOf_toString, hc, hd, and_true]
    and_intros <;> exact inline_of_plain (by decide)
  have allowed : MadeOf IsInline s!"Allowed sender IP: {context.address.text}" := by
    simp only [madeOf_append, madeOf_toString, hc, and_true]
    exact inline_of_plain (by decide)
  have meaning := exec_directiveVerdict_ok h
  unfold directiveVerdict at h
  rw [exec_read_bind] at h
  cases hq : d.qualifier with
  | minus =>
    have failed : Qualifier.minus.result? = some verdict.result := Qualifier.mem_meanings_iff.mp (hq ▸ meaning)
    exact absurd (Option.some.inj failed).symm hr
  | plus =>
    rw [hq] at h
    cases h
    exact allowed
  | tilde | question =>
    rw [hq] at h
    cases h
    exact matching
  | unknown sign =>
    rw [hq] at h
    cases h

/-- A verdict that is no failure is explained on one line, or the redirect leads to a visit that comes to it. -/
theorem inline_or_redirects (h : v.exec answer context = (.ok verdict, w)) (hr : verdict.result ≠ .fail) :
    MadeOf IsInline verdict.explanation ∨
      ∃ v', v.Redirects answer context v' ∧ v'.exec answer context = (.ok verdict, w) := by
  cases settles_of_exec h with
  | byDefault _ _ hv => rcases hv with rfl | rfl <;> exact .inl (inline_of_plain (by decide))
  | byMatch hs _ hv => exact .inl (inline_directiveVerdict hc (inline_of_searches hs) hv hr)
  | byRedirect redirects hv => exact .inr ⟨_, redirects, hv⟩

theorem inline_of_exec (h : v.exec answer context = (.ok verdict, w)) (hr : verdict.result ≠ .fail) :
    MadeOf IsInline verdict.explanation := by
  obtain ⟨-, -, inline⟩ := exists_last_of_leads Redirects.enters (Q := fun _ => MadeOf IsInline verdict.explanation)
    (fun _ h => inline_or_redirects hc h hr) h
  exact inline

end Visit

/-! ### Checks -/

/-- A check explains its verdict on one line if that is a decision and no failure, or if all that the resolver gives and the
cache holds is on one line. -/
structure Dns.Inquiry.OnLines (client : Client) (check : Inquiry (Except Fault Verdict)) : Prop where
  decided : ∀ s verdict, (check.run client.answers s).1 = .ok verdict → verdict.result ∈ Result.decisions →
    verdict.result ≠ .fail → MadeOf IsInline verdict.explanation
  given : Pairing.inline.Gives client.resolver → ∀ s : ClientState,
    s.cache.Holds Pairing.inline.Given → (check.run client.answers s).2.cache.Holds Pairing.inline.Given ∧
      ∀ verdict, (check.run client.answers s).1 = .ok verdict → MadeOf IsInline verdict.explanation

theorem Dns.Inquiry.onLines_done {client : Client} {verdict : Verdict} (h : MadeOf IsInline verdict.explanation) :
    Inquiry.OnLines client (.done (.ok verdict)) where
  decided _ _ hv _ _ := Except.ok.inj hv ▸ h
  given _ _ hs := ⟨hs, fun _ hv => Except.ok.inj hv ▸ h⟩

theorem inline_invalid {start : String} (hs : MadeOf IsPlain start) (name : String) :
    MadeOf IsInline s!"{start}{Domain.shown name}" := by
  simp only [madeOf_append, madeOf_toString]
  exact ⟨inline_of_plain hs, (Domain.printed_shown name).mono fun _ => isInline_of_printable⟩

theorem inline_bareEnvelope {envelope : String} (h : MadeOf IsInline envelope) : MadeOf IsInline (bareEnvelope envelope) := by
  have first : ∀ (c : Char) (s : List Char), ∀ d ∈ withoutFirst c s, d ∈ s := fun c s d hd => by
    unfold withoutFirst at hd
    split at hd
    · exact List.mem_of_mem_drop hd
    · exact hd
  have last : ∀ (c : Char) (s : List Char), ∀ d ∈ withoutLast c s, d ∈ s := fun c s d hd => by
    unfold withoutLast at hd
    split at hd
    · exact List.dropLast_subset s hd
    · exact hd
  exact madeOf_ofList.mpr fun c hc => h c (mem_of_stripped (first _ _ c (last _ _ c (mem_of_stripped hc))))

theorem inline_senderOf {envelope helo : String} (he : MadeOf IsInline envelope) (hh : MadeOf IsInline helo) :
    MadeOf IsInline (senderOf envelope helo).1 ∧ MadeOf IsInline (senderOf envelope helo).2 := by
  have default : MadeOf IsPlain Context.defaultLocalPart := by decide
  have named : MadeOf IsInline (if bareEnvelope envelope = "" then trimmed helo else bareEnvelope envelope) := by
    split
    · exact inline_trimmed hh
    · exact inline_bareEnvelope he
  unfold senderOf
  dsimp only
  generalize (if bareEnvelope envelope = "" then trimmed helo else bareEnvelope envelope) = name at named
  have parts := Pairing.inline_lawful.splitSender (.refl (Pairing.spelt_inline_iff.mpr named))
  have localPart := inline_trimmed (Pairing.names_inline_iff.mp parts.1).2
  have domain := inline_trimmed (Pairing.names_inline_iff.mp parts.2).2
  simp only [madeOf_append, madeOf_toString, domain, and_true]
  refine ⟨?_, inline_of_plain (by decide)⟩
  split
  · exact inline_of_plain default
  · exact localPart

section
variable {client : Client} {receiver : Receiver} {ip domain sender envelope helo : String}
  (hr : MadeOf IsInline receiver.name) (hip : MadeOf IsInline ip) (hh : MadeOf IsInline helo)
include hr hip hh

theorem onLines_checkHost (hd : MadeOf IsInline domain) (hs : MadeOf IsInline sender) :
    (checkHost receiver ip domain sender helo).OnLines client where
  decided s verdict hv hu hf := by
    obtain ⟨context, hc, hv⟩ := context_of_checkHost hv
    obtain ⟨w, he⟩ := exec_first_of_decision hv hu
    exact Visit.inline_of_exec (Context.inline_address hc hip) he hf
  given hg s kept := by
    have name : ∀ {t : String}, MadeOf IsInline t → Pairing.inline.Names t t := fun ht =>
      .refl (Pairing.spelt_inline_iff.mpr ht)
    have same : Pairing.inline.Receivers receiver receiver :=
      ⟨rfl, rfl, fun _ => ⟨rfl, Pairing.spelt_inline_iff.mpr hr⟩, fun _ => rfl, fun _ _ => rfl⟩
    obtain ⟨ends, -, held, -⟩ := Pairing.checkHost_paired Pairing.inline_lawful same
      (fun _ => Pairing.spelt_inline_iff.mpr hip) (name hs) (name hh) hg (name hd)
      (Client.follows_self hg.fits (Client.given_unset Pairing.inline_lawful)) kept
    exact ⟨held, fun verdict hv => Pairing.spelt_inline_iff.mp ((ends.same trivial).2 verdict hv)⟩

theorem onLines_checkSender (he : MadeOf IsInline envelope) : (checkSender receiver ip envelope helo).OnLines client := by
  have helo := inline_trimmed hh
  have sender := inline_senderOf he helo
  rw [checkSender_eq Prod.mk.eta.symm]
  split
  · exact onLines_checkHost hr hip helo sender.2 sender.1
  · exact Inquiry.onLines_done (inline_invalid  (by decide) _)

theorem onLines_checkHelo : (checkHelo receiver ip helo).OnLines client := by
  have helo := inline_trimmed hh
  unfold checkHelo
  dsimp only
  split
  · have postmaster : MadeOf IsPlain Context.defaultLocalPart := by decide
    refine onLines_checkHost hr hip helo helo ?_
    simp only [madeOf_append, madeOf_toString, helo, and_true]
    exact ⟨inline_of_plain postmaster, inline_of_plain (by decide)⟩
  · exact Inquiry.onLines_done (inline_invalid  (by decide) _)

end

/-! ### Reports -/

/-- The verdicts in a report are those of its checks, of which the second one is made after the first. -/
theorem Report.mem_inquiry {answer : Question → σ → Answer × σ} {receiver : Receiver} {delivery : Delivery} {withHelo : Bool}
    {s : σ} {report : Report} (h : ((inquiry receiver delivery withHelo).run answer s).1 = .ok report) :
    let sent := (checkSender receiver delivery.ip delivery.envelope delivery.helo).run answer s
    let greeted := (checkHelo receiver delivery.ip delivery.helo).run answer sent.2
    ∀ checked ∈ report.mailfromReport :: report.heloReport.toList, ∃ identity domain verdict,
      checked = ofVerdict receiver { delivery with helo := trimmed delivery.helo } identity domain verdict ∧
        (sent.1 = .ok verdict ∨ greeted.1 = .ok verdict) := by
  rw [run_inquiry] at h
  dsimp only at h ⊢
  generalize (checkSender receiver delivery.ip delivery.envelope delivery.helo).run answer s = sent at h ⊢
  generalize ((checkHelo receiver delivery.ip delivery.helo).run answer sent.2).1 = greeted at h ⊢
  unfold assembled at h
  rcases hs : sent.1 with f | verdict
  · rw [hs] at h
    cases h
  · rw [hs] at h
    cases withHelo with
    | false =>
      cases h
      intro checked hc
      rw [Option.toList_none, List.mem_singleton] at hc
      exact ⟨_, _, verdict, hc, .inl rfl⟩
    | true =>
      rcases hg : greeted with f | verdict'
      · rw [hg] at h
        cases h
      · rw [hg] at h
        cases h
        intro checked hc
        rw [Option.toList_some, List.mem_cons, List.mem_singleton] at hc
        rcases hc with hc | hc
        · exact ⟨_, _, verdict, hc, .inl rfl⟩
        · exact ⟨_, _, verdict', hc, .inr rfl⟩

/-- If all texts of a delivery and the name of the receiver are on one line, a header is on one line if and only if the
explanation in it is. It is if the result is a pass, a soft fail or neutral, whatever the resolver gives; and if all texts
and errors that the resolver gives and all texts that the cache holds are on one line, it is whatever the result. -/
theorem Report.inline_headers {client : Client} {receiver : Receiver} {delivery : Delivery} {withHelo : Bool}
    {state : ClientState} {report : Report} (named : MadeOf IsInline receiver.name) (sent : delivery.OnLines)
    (h : (client.run (inquiry receiver delivery withHelo) state).1 = .ok report) :
    ∀ checked ∈ report.mailfromReport :: report.heloReport.toList,
      (MadeOf IsInline checked.header ↔ MadeOf IsInline checked.verdict.explanation) ∧
      (checked.verdict.result ∈ [.pass, .softfail, .neutral] → MadeOf IsInline checked.header) ∧
      (client.resolver.GivesTexts IsInline → client.resolver.TellsInline →
        (∀ entry ∈ state.cache.entries, ∀ text ∈ entry.records, MadeOf IsInline text) → MadeOf IsInline checked.header) := by
  have suits : ∀ type text, MadeOf IsInline text → Pairing.inline.Suits type text := fun type text ht =>
    ⟨Pairing.spelt_inline_iff.mpr ht, fun _ => Record.uses_of_forall (fun _ => trivial) text⟩
  have sender : Inquiry.OnLines client _ := onLines_checkSender named sent.ip sent.helo sent.envelope
  have helo : Inquiry.OnLines client _ := onLines_checkHelo named sent.ip sent.helo
  intro checked hc
  obtain ⟨identity, domain, verdict, rfl, come⟩ :=
    @mem_inquiry _ client.answers receiver delivery withHelo state report h checked hc
  have trimmed : Delivery.OnLines { delivery with helo := trimmed delivery.helo } :=
    ⟨sent.ip, sent.envelope, inline_trimmed sent.helo⟩
  rw [inline_ofVerdict_iff named trimmed, show (ofVerdict receiver _ identity domain verdict).verdict = verdict from rfl]
  refine ⟨Iff.rfl, fun hr => ?_, fun texts errors held => ?_⟩
  · have decided : verdict.result ∈ Result.decisions ∧ verdict.result ≠ .fail :=
      (show ∀ r ∈ [Result.pass, .softfail, .neutral], r ∈ Result.decisions ∧ r ≠ .fail by decide) _ hr
    rcases come with hv | hv
    · exact sender.decided _ _ hv decided.1 decided.2
    · exact helo.decided _ _ hv decided.1 decided.2
  · have given : Pairing.inline.Gives client.resolver :=
      ⟨fun calls q given hg text ht => suits _ _ (texts calls q given hg text ht),
        fun calls q e he _ => Pairing.spelt_inline_iff.mpr (inline_ofResolver fun kind message hm =>
          errors calls q kind message (hm ▸ he))⟩
    obtain ⟨kept, first⟩ := sender.given given state fun entry he _ _ _ text ht => suits _ _ (held entry he text ht)
    rcases come with hv | hv
    · exact first _ hv
    · exact (helo.given given _ kept).2 _ hv

/-- A delivery of texts on one line. -/
def plainDelivery : Delivery := ⟨"192.0.2.5", "user@example.com", "mail.example.com"⟩

theorem plainDelivery_onLines : plainDelivery.OnLines := ⟨by decide, by decide, by decide⟩

/-- A zone whose policy explains a failure by a text. -/
def zoneExplaining (text : String) : Zone :=
  [("example.com", [("TXT", .fixed (.ok [.text "v=spf1 -all exp=why.example.com"]))]),
   ("why.example.com", [("TXT", .fixed (.ok [.text text]))])]

/-- An explanation on one line is shown in one. -/
theorem Report.inline_headers_explained :
    let header := "Received-SPF: fail (Rejected [see above]) client-ip=192.0.2.5; " ++
      "envelope-from=\"user@example.com\"; helo=mail.example.com; identity=mailfrom;"
    ((Client.ofZone (zoneExplaining "Rejected (see above)")).run (inquiry { clock := .whole 0 } plainDelivery false)
      .unasked).1.map (·.mailfromReport.header) = .ok header ∧ MadeOf IsInline header := by
  have headed : ((Client.ofZone (zoneExplaining "Rejected (see above)")).run
      (inquiry { clock := .whole 0 } plainDelivery false) .unasked).1.map (·.mailfromReport.header) =
      .ok ("Received-SPF: fail (Rejected [see above]) client-ip=192.0.2.5; " ++
        "envelope-from=\"user@example.com\"; helo=mail.example.com; identity=mailfrom;") := by decide +kernel
  refine ⟨headed, ?_⟩
  cases h : ((Client.ofZone (zoneExplaining "Rejected (see above)")).run
      (inquiry { clock := .whole 0 } plainDelivery false) .unasked).1 with
  | error f =>
    rw [h] at headed
    cases headed
  | ok report =>
    rw [h] at headed
    rw [← Except.ok.inj headed]
    exact (inline_headers (by decide +kernel) plainDelivery_onLines h _ List.mem_cons_self).2.2
      (givesTexts_resolver (by decide +kernel)) (tellsInline_resolver (by decide +kernel)) (List.forall_mem_nil _)

/-- A line end in an explanation begins a new line of the header. -/
theorem Report.header_injected :
    MadeOf IsInline Receiver.unknownName ∧ MadeOf IsInline plainDelivery.ip ∧ MadeOf IsInline plainDelivery.envelope ∧
      MadeOf IsInline plainDelivery.helo ∧
      ((Client.ofZone (zoneExplaining "Rejected.\x0d\nX-Injected: yes")).run
        (inquiry { clock := .whole 0 } plainDelivery false) .unasked).1.map (·.mailfromReport.header) =
        .ok ("Received-SPF: fail (Rejected.\x0d\nX-Injected: yes) client-ip=192.0.2.5; " ++
          "envelope-from=\"user@example.com\"; helo=mail.example.com; identity=mailfrom;") := by
  decide +kernel

end SenderPolicy
