import SenderPolicy.Proofs.PairedClients

/-! The name of the receiver and the time of a check are told to explanations only. Outside explanations no known letter
stands for them, so no question and no result depends on them. But three characters outside ASCII that are equal to a letter
when case is ignored stand for the time, in explanations and elsewhere. -/

namespace SenderPolicy

open Dns Evaluation Text

/-! ### Letters -/

/-- The letter is one of those that exist. -/
def Letter.IsKnown : Letter → Prop
  | variant _ => False
  | _ => True

instance : DecidablePred Letter.IsKnown
  | .variant _ => .isFalse id
  | .sender | .localPart | .senderDomain | .domain | .address | .confirmedName | .family | .helo | .client | .receiver
  | .time => .isTrue trivial

/-- The character is none of the three outside ASCII that are equal to the letter of a macro when case is ignored. -/
def IsUnmistakable (c : Char) : Prop := c ∉ ['İ', 'ı', 'ſ']

instance : DecidablePred IsUnmistakable := fun _ => inferInstanceAs (Decidable (¬ _))

/-- All letters are known but those that are read from three characters outside ASCII. -/
theorem isKnown_of_letter {c : Char} {letter : Letter} (hc : IsUnmistakable c)
    (h : (Macro.letter? c).map (·.1) = some letter) : letter.IsKnown := by
  have table : ∀ entry ∈ Letter.all, entry.2.IsKnown := by decide
  unfold Macro.letter? at h
  split at h
  · rename_i found hf
    obtain rfl : found = letter := Option.some.inj h
    obtain ⟨before, after, all, -⟩ := List.lookup_eq_some_iff.mp hf
    exact table (c.toLower, found) (all ▸ List.mem_append_right _ List.mem_cons_self)
  · simp_all [IsUnmistakable]

/-! ### Macro strings -/

/-- The receiver under another name and at another time. -/
def Receiver.elsewhere (receiver : Receiver) (name : String) (clock : Instant) : Receiver := { receiver with name, clock }

/-- The context as a receiver under another name has it at another time. -/
def Context.elsewhere (context : Context) (name : String) (clock : Instant) : Context :=
  { context with receiver := context.receiver.elsewhere name clock }

namespace Evaluation

variable {σ α β : Type}

section
variable (answer : Question → σ → Answer × σ) (context : Context) (name : String) (clock : Instant)

/-- Elsewhere the evaluation comes to the same, whatever has been counted and asked before. -/
def Placeless (e : Evaluation α) : Prop := ∀ w, exec answer (context.elsewhere name clock) e w = exec answer context e w

end

variable {answer : Question → σ → Answer × σ} {context : Context} {name : String} {clock : Instant}

theorem placeless_pure (a : α) : Placeless answer context name clock (pure a) := fun _ => rfl

theorem placeless_throw (x : Failure) : Placeless answer context name clock (throw x : Evaluation α) := fun _ => rfl

theorem placeless_countLookup : Placeless answer context name clock countLookup := fun w => by
  rw [exec_countLookup, exec_countLookup]
  rfl

theorem Placeless.bind {e : Evaluation α} {f : α → Evaluation β} (h : Placeless answer context name clock e)
    (hf : ∀ a, Placeless answer context name clock (f a)) : Placeless answer context name clock (e >>= f) := fun w => by
  rw [exec_bind, exec_bind, h w]
  rcases exec answer context e w with ⟨x | a, w'⟩
  · rfl
  · exact hf a w'

/-- What an evaluation reads of its context may not be the receiver's name or the time. -/
theorem placeless_reading {f : Context → Evaluation α} (same : f (context.elsewhere name clock) = f context)
    (h : Placeless answer context name clock (f context)) : Placeless answer context name clock (read >>= f) := fun w => by
  rw [exec_read_bind, exec_read_bind, same]
  exact h w

variable {domain : String}

theorem clientNames_placeless : Placeless answer context name clock clientNames := by
  refine placeless_reading rfl (.bind (fun w => ?_) fun r => ?_)
  · rw [exec_ofInquiry, exec_ofInquiry]
  · rcases r with (e | text) | names
    · exact placeless_pure _
    · exact placeless_throw _
    · exact placeless_pure _

/-- Facts for which known letters stand outside explanations are the same everywhere. -/
theorem fact_placeless {letter : Letter} (known : letter.IsKnown) (allowed : letter.explanationOnly = false) :
    Placeless answer context name clock (fact false domain letter) := by
  cases letter with
  | address =>
    refine placeless_reading rfl ?_
    dsimp only [addressText]
    cases context.address.macroText with
    | ok text => exact placeless_pure text
    | error e => exact placeless_throw _
  | confirmedName =>
    refine placeless_reading rfl (.bind placeless_countLookup fun _ => .bind clientNames_placeless fun r => ?_)
    cases r <;> exact placeless_pure _
  | sender | localPart | senderDomain | domain | family | helo => exact placeless_reading rfl (placeless_pure _)
  | client | receiver | time => cases allowed
  | variant text => exact known.elim

theorem expandTokens_placeless : ∀ {tokens : List Token}, (∀ m, Token.expansion m ∈ tokens →
    m.letter.IsKnown ∧ m.letter.explanationOnly = false) → Placeless answer context name clock (expandTokens false domain tokens)
  | [], _ => placeless_pure _
  | .literal _ :: rest, h => .bind (expandTokens_placeless fun m hm => h m (.tail _ hm)) fun _ => placeless_pure _
  | .expansion m :: rest, h => by
    obtain ⟨known, allowed⟩ := h m (.head _)
    exact .bind (fact_placeless known allowed) fun _ =>
      .bind (expandTokens_placeless fun m hm => h m (.tail _ hm)) fun _ => placeless_pure _

/-- A macro string whose macros use known letters stands for the same text everywhere, or for the same error. -/
theorem expand_placeless {text : String} (h : SpecUses Letter.IsKnown text) :
    Placeless answer context name clock (expand false domain text) := by
  unfold expand
  split
  · exact placeless_throw _
  · rename_i tokens ht
    refine expandTokens_placeless fun m hm => ⟨h tokens ht m hm, ?_⟩
    have read : m.ReadFrom false fun _ => True :=
      readFrom_of_readTokens (fun _ _ => trivial) ht (fun _ _ => trivial) _ hm
    simpa using read.allowed

end Evaluation

/-! ### Checks -/

/-- Names are equal, and letters are known. Explanations may differ. -/
def Pairing.hidden : Pairing where
  alike := Eq
  letter := Letter.IsKnown
  explained := False

namespace Pairing

theorem names_hidden_iff {s t : String} : hidden.Names s t ↔ s = t := by
  unfold Names hidden
  dsimp only
  rw [List.forall₂_eq_eq_eq, String.toList_inj]

theorem hidden_lawful : hidden.Lawful where
  plain _ _ := rfl
  left _ _ _ := rfl
  recased _ _ h := congrArg Char.toLower h
  lower _ _ h := congrArg Text.lower (names_hidden_iff.mp h)
  normalized _ _ h := congrArg Domain.normalized (names_hidden_iff.mp h)
  spelt_lower _ _ _ _ := rfl
  same h := h.elim
  printed h := h.elim
  spelt_normalized h := h.elim

end Pairing

/-- The records that the resolver gives as texts use known letters outside explanations. -/
def Dns.Resolver.GivesKnownLetters (resolver : Resolver) : Prop :=
  ∀ calls q given, resolver calls q = .ok given → q.type = .txt → ∀ text ∈ readReply .txt given, Record.Uses Letter.IsKnown text

/-- A record without those characters uses known letters. -/
theorem givesKnownLetters_of_texts {resolver : Resolver} (h : resolver.GivesTexts IsUnmistakable) :
    resolver.GivesKnownLetters := by
  have plain : ∀ c, IsPlain c → IsUnmistakable c := by
    rintro c ⟨-, hc⟩ hm
    simp only [List.mem_cons, List.not_mem_nil, or_false] at hm
    rcases hm with rfl | rfl | rfl <;> exact absurd hc (by decide)
  intro calls q given hg hq text ht
  exact Record.uses_of_spelt plain (fun _ _ => isKnown_of_letter) (h calls q given hg text (hq ▸ ht))

theorem ofText_elsewhere {receiver : Receiver} {ip sender helo : String} {context : Context} (name : String) (clock : Instant)
    (h : Context.ofText receiver ip sender helo = .ok context) :
    Context.ofText (receiver.elsewhere name clock) ip sender helo = .ok (context.elsewhere name clock) := by
  unfold Context.ofText at h ⊢
  cases ha : Address.ofText? ip with
  | none =>
    rw [ha] at h
    cases h
  | some address =>
    rw [ha] at h
    cases h
    rfl

/-- Outside explanations, a macro string whose macros use known letters stands for the same text or the same error whatever
the receiver is called and whatever the time is. If all records use known letters, a check from an empty cache makes the same
calls, comes to the same result and counts the same. -/
theorem checkHost_elsewhere (name : String) (clock : Instant) :
    (∀ (σ : Type) (answer : Question → σ → Answer × σ) context domain text w, SpecUses Letter.IsKnown text →
      exec answer (context.elsewhere name clock) (expand false domain text) w = exec answer context (expand false domain text) w) ∧
    ∀ (client : Client) (receiver : Receiver) ip domain sender helo (t : Instant) (state : ClientState),
      client.resolver.GivesKnownLetters → state.cache.entries = [] →
        let ran := (checkHost receiver ip domain sender helo).run client.answers state
        let ran' := (checkHost (receiver.elsewhere name clock) ip domain sender helo).run (client.withTime t).answers state
        ran.2.calls = ran'.2.calls ∧ ran.1.map (·.result) = ran'.1.map (·.result) ∧
          ∀ context, Context.ofText receiver ip sender helo = .ok context →
            ((context.check domain).run client.answers state).1.counters =
              (((context.elsewhere name clock).check domain).run (client.withTime t).answers state).1.counters := by
  refine ⟨fun σ answer context domain text w h => expand_placeless h w, ?_⟩
  intro client receiver ip domain sender helo t state hr empty
  have given : Pairing.hidden.Gives client.resolver :=
    ⟨fun calls q given hg text ht => ⟨fun _ _ => rfl, fun hq => hr calls q given hg hq text (hq ▸ ht)⟩, fun _ _ _ _ => nofun⟩
  have kind : Pairing.hidden.Receivers receiver (receiver.elsewhere name clock) :=
    ⟨rfl, rfl, nofun, nofun, fun _ known => known.elim⟩
  have same : ∀ s, Pairing.hidden.Names s s := fun _ => Pairing.names_hidden_iff.mpr rfl
  obtain ⟨ends, calls, counters⟩ := Pairing.checkHost_paired_of_empty Pairing.hidden_lawful kind nofun (same sender)
    (same helo) given (same domain) t empty
  exact ⟨calls, ends.result, fun context hc => counters context _ hc (ofText_elsewhere name clock hc)⟩

/-- A zone whose record leads to an explanation that tells the receiver and the time. -/
def explainingZone : Zone :=
  [("example.com", [("TXT", .fixed (.ok [.text "v=spf1 exists:%\x7bl\x7d.example.com -all exp=why.example.com"]))]),
   ("why.example.com", [("TXT", .fixed (.ok [.text "Rejected by %\x7br\x7d at %\x7bt\x7d"]))])]

theorem checkHost_explainingZone :
    let ran := (checkHost { clock := .whole 0 } "192.0.2.5" "example.com" "user@example.com" "").run
      (Client.ofZone explainingZone).answers .unasked
    let ran' := (checkHost (Receiver.elsewhere { clock := .whole 0 } "mx.example.net" (.whole 9)) "192.0.2.5" "example.com"
      "user@example.com" "").run ((Client.ofZone explainingZone).withTime (.whole 9)).answers .unasked
    ran.2.calls = ran'.2.calls ∧ ran.1 = .ok ⟨.fail, "Rejected by unknown at 0"⟩ ∧
      ran'.1 = .ok ⟨.fail, "Rejected by mx.example.net at 9"⟩ := by
  have known : (Client.ofZone explainingZone).resolver.GivesKnownLetters :=
    givesKnownLetters_of_texts (givesTexts_resolver (by decide))
  obtain ⟨calls, -⟩ := (checkHost_elsewhere "mx.example.net" (.whole 9)).2 (Client.ofZone explainingZone) { clock := .whole 0 }
    "192.0.2.5" "example.com" "user@example.com" "" (.whole 9) .unasked known rfl
  exact ⟨calls, by decide +kernel, by decide +kernel⟩

/-- A zone whose record uses a letter that is equal to i only when case is ignored. -/
def dotlessLetterZone : Zone :=
  [("example.com", [("TXT", .fixed (.ok [.text "v=spf1 exists:%\x7b\u0131\x7d.example.com -all"]))])]

/-- That letter stands for the time in a macro string outside explanations and in the name of a question. -/
theorem checkHost_dotlessLetterZone :
    let expanded := fun clock => (exec (Client.ofZone []).answers
      ⟨{ clock }, .v4 0xC0000205, "user", "example.com", "mail.example.com"⟩
      (expand false "example.com" "%\x7b\u0131\x7d") (.fresh .unasked)).1
    let asked := fun clock => ((checkHost { clock } "192.0.2.5" "example.com" "user@example.com" "mail.example.com").run
      ((Client.ofZone dotlessLetterZone).withTime clock).answers .unasked).2.calls.map (·.question.name)
    expanded (.whole 0) = .ok "0" ∧ expanded (.whole 1) = .ok "1" ∧
      asked (.whole 0) = ["0.example.com", "example.com"] ∧ asked (.whole 1) = ["1.example.com", "example.com"] := by
  decide +kernel

end SenderPolicy
