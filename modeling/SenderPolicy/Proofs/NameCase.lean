import SenderPolicy.Proofs.PairedClients

/-! The case of letters in names makes no difference to a check. Names that differ in nothing else are asked for under one
name, and whatever a check makes of them, macros, targets and cuts included, differs in nothing else. -/

namespace SenderPolicy

open Dns Text

/-- Names of ASCII that differ in nothing but the case of letters. Explanations may differ. -/
def Pairing.recased : Pairing where
  alike c d := c.toLower = d.toLower ∧ IsAscii c ∧ IsAscii d
  letter _ := True
  explained := False

namespace Pairing

theorem spelt_recased_iff {s : String} : recased.Spelt s ↔ MadeOf IsAscii s :=
  ⟨fun h => h.mono fun _ hc => hc.2.1, fun h => h.mono fun _ hc => ⟨rfl, hc, hc⟩⟩

theorem names_recased_iff {s t : String} :
    recased.Names s t ↔ Recased s t ∧ MadeOf IsAscii s ∧ MadeOf IsAscii t := by
  have chars : ∀ l l' : List Char, List.Forall₂ recased.alike l l' ↔
      lowered l = lowered l' ∧ (∀ c ∈ l, IsAscii c) ∧ ∀ c ∈ l', IsAscii c := by
    intro l
    induction l with
    | nil => intro l'; cases l' <;> simp [lowered]
    | cons c l ih =>
      intro l'
      cases l' with
      | nil => simp [lowered]
      | cons d l' =>
        rw [List.forall₂_cons, ih]
        simp only [recased, lowered, List.map_cons, List.cons.injEq, List.forall_mem_cons]
        tauto
  exact chars s.toList t.toList

theorem recased_lawful : recased.Lawful where
  plain c hc := ⟨rfl, by unfold IsAscii IsPlain at *; omega, by unfold IsAscii IsPlain at *; omega⟩
  left c d h := ⟨rfl, h.2.1, h.2.1⟩
  recased c d h := h.1
  lower s t h := by
    obtain ⟨same, hs, ht⟩ := names_recased_iff.mp h
    exact same.lower hs ht
  normalized s t h := by
    obtain ⟨same, hs, ht⟩ := names_recased_iff.mp h
    exact same.normalized hs ht
  spelt_lower s h := spelt_recased_iff.mpr (ascii_lower (spelt_recased_iff.mp h))
  same h := h.elim
  printed h := h.elim
  spelt_normalized h := h.elim

theorem suits_recased {type : RecordType} {text : String} (h : MadeOf IsAscii text) : recased.Suits type text :=
  ⟨spelt_recased_iff.mpr h, fun _ => Record.uses_of_forall (fun _ => trivial) text⟩

end Pairing

section
variable {client : Client} {receiver : Receiver} {ip domain domain' sender sender' helo helo' : String}

/-- If all texts are of ASCII, the case of letters in the names that a check is given makes no difference to its calls from
an empty cache, to its result and to what it counts. -/
theorem checkHost_recased (hr : client.resolver.GivesTexts IsAscii)
    (ascii : ∀ s ∈ [domain, domain', sender, sender', helo, helo'], MadeOf IsAscii s) (hd : Recased domain domain')
    (hs : Recased sender sender') (hh : Recased helo helo') {state : ClientState} (empty : state.cache.entries = []) :
    let ran := (checkHost receiver ip domain sender helo).run client.answers state
    let ran' := (checkHost receiver ip domain' sender' helo').run client.answers state
    ran.2.calls = ran'.2.calls ∧ ran.1.map (·.result) = ran'.1.map (·.result) ∧
      ∀ context context', Context.ofText receiver ip sender helo = .ok context →
        Context.ofText receiver ip sender' helo' = .ok context' →
        ((context.check domain).run client.answers state).1.counters =
          ((context'.check domain').run client.answers state).1.counters := by
  simp only [List.forall_mem_cons] at ascii
  obtain ⟨d, d', s, s', h, h', -⟩ := ascii
  have given : Pairing.recased.Gives client.resolver :=
    ⟨fun calls q given hg text ht => Pairing.suits_recased (hr calls q given hg text ht), fun _ _ _ _ => nofun⟩
  have one : Pairing.recased.Receivers receiver receiver := ⟨rfl, rfl, nofun, nofun, fun _ _ => rfl⟩
  obtain ⟨ends, calls, counters⟩ := Pairing.checkHost_paired_of_empty Pairing.recased_lawful one nofun
    (Pairing.names_recased_iff.mpr ⟨hs, s, s'⟩) (Pairing.names_recased_iff.mpr ⟨hh, h, h'⟩) given
    (Pairing.names_recased_iff.mpr ⟨hd, d, d'⟩) client.now empty
  exact ⟨calls, ends.result, counters⟩

end

/-- A zone in which a macro makes a target of the local part of the sender. -/
def localPartZone : Zone :=
  [("example.com", [("TXT", .fixed (.ok [.text "v=spf1 exists:%\x7bl\x7d.Senders.%\x7bo\x7d -all"]))]),
   ("user.senders.example.com", [("A", .fixed (.ok [.text "127.0.0.2"]))])]

theorem checkHost_localPartZone :
    let ran := (checkHost { clock := .whole 0 } "192.0.2.5" "example.com" "user@example.com" "mail.example.com").run
      (Client.ofZone localPartZone).answers .unasked
    let ran' := (checkHost { clock := .whole 0 } "192.0.2.5" "Example.COM" "User@EXAMPLE.com" "Mail.example.com").run
      (Client.ofZone localPartZone).answers .unasked
    ran.2.calls = ran'.2.calls ∧ ran.1.map (·.result) = ran'.1.map (·.result) ∧ ran'.1.map (·.result) = .ok .pass := by
  obtain ⟨calls, result, -⟩ := @checkHost_recased (Client.ofZone localPartZone) { clock := .whole 0 } "192.0.2.5" "example.com"
    "Example.COM" "user@example.com" "User@EXAMPLE.com" "mail.example.com" "Mail.example.com"
    (givesTexts_resolver (by decide +kernel)) (by decide +kernel) (by decide +kernel) (by decide +kernel) (by decide +kernel)
    .unasked rfl
  exact ⟨calls, result, by decide +kernel⟩

end SenderPolicy
