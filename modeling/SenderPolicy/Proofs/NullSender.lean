import SenderPolicy.Proofs.Coherence
import SenderPolicy.Proofs.Pieces

/-! Empty envelopes. A message without a sender is checked under the name that the client has given for itself: cut up and
put together again, the name gives the sender and the domain that its own check uses, as long as it holds no at sign. -/

namespace SenderPolicy

open Dns Text

/-! ### Cutting at the last at sign -/

section
variable {c : Char} {s : List Char}

theorem cutLast_of_not_mem (h : c ∉ s) : cutLast c s = none := by
  unfold cutLast
  rw [cutFirst_of_not_mem (mt List.mem_reverse.mp h)]
  rfl

theorem cutLast_append {before after : List Char} (h : c ∉ after) : cutLast c (before ++ c :: after) = some (before, after) := by
  unfold cutLast
  rw [List.reverse_append, List.reverse_cons, List.append_assoc, List.singleton_append,
    cutFirst_append (mt List.mem_reverse.mp h)]
  simp

/-- A text that holds a character is cut at its last occurrence. -/
theorem exists_cutLast (h : c ∈ s) : ∃ before after, s = before ++ c :: after ∧ cutLast c s = some (before, after) := by
  obtain ⟨after, before, hs, absent⟩ := List.eq_append_cons_of_mem (List.mem_reverse.mpr h)
  have cut : s = before.reverse ++ c :: after.reverse := by
    rw [← List.reverse_reverse s, hs]
    simp
  refine ⟨before.reverse, after.reverse, cut, ?_⟩
  rw [cut, cutLast_append (mt List.mem_reverse.mp absent)]

theorem length_trimmed_le (s : String) : (trimmed s).toList.length ≤ s.toList.length := by
  unfold trimmed stripped
  rw [String.toList_ofList]
  exact (List.rdropWhile_prefix isBlank _).length_le.trans (List.dropWhile_suffix isBlank).length_le

end

/-- A name without an at sign has no local part. -/
theorem Context.splitSender_bare {name : String} (h : '@' ∉ name.toList) : splitSender name = ("", name) := by
  unfold splitSender
  rw [cutLast_of_not_mem h]

theorem Context.splitSender_joined (localPart : String) {name : String} (h : '@' ∉ name.toList) :
    splitSender s!"{localPart}@{name}" = (localPart, name) := by
  have spelt : (s!"{localPart}@{name}").toList = localPart.toList ++ '@' :: name.toList := by
    show (localPart ++ "@" ++ name).toList = _
    simp
  unfold splitSender
  rw [spelt, cutLast_append h]
  simp

/-! ### The sender of an empty envelope -/

section
variable {receiver : Receiver} {ip envelope helo : String}

theorem senderOf_null (empty : bareEnvelope envelope = "") (h : '@' ∉ (trimmed helo).toList) :
    senderOf envelope helo = (s!"{Context.defaultLocalPart}@{trimmed helo}", trimmed helo) := by
  unfold senderOf
  simp only [empty, ↓reduceIte, Context.splitSender_bare h, trimmed_trimmed, show trimmed "" = "" from rfl]

/-- What stands behind an at sign is shorter than the name. -/
theorem senderOf_null_iff (empty : bareEnvelope envelope = "") :
    (senderOf envelope helo).2 = trimmed helo ↔ '@' ∉ (trimmed helo).toList := by
  refine ⟨fun whole held => ?_, fun h => by rw [senderOf_null empty h]⟩
  obtain ⟨before, after, spelt, cut⟩ := exists_cutLast held
  have domain : (senderOf envelope helo).2 = trimmed (String.ofList after) := by
    unfold senderOf Context.splitSender
    simp only [empty, ↓reduceIte, cut]
  have shorter := length_trimmed_le (String.ofList after)
  rw [← domain, whole, spelt, String.toList_ofList, List.length_append, List.length_cons] at shorter
  omega

/-- If an envelope is empty within white space and angle brackets, the domain of the sender is the whole name that the client
has given if and only if the name holds no at sign. Then, if it is a domain name, the check of the sender is the check of
that name; both evaluate the policy of the whole name, with the local part that stands for a missing one. -/
theorem checkSender_of_null (empty : bareEnvelope envelope = "") (valid : Domain.isValid (trimmed helo) = true) :
    ((senderOf envelope helo).2 = trimmed helo ↔ '@' ∉ (trimmed helo).toList) ∧
      ('@' ∉ (trimmed helo).toList →
        checkSender receiver ip envelope helo = checkHelo receiver ip helo ∧
          checkHelo receiver ip helo = match Address.ofText? ip with
            | none => .done (.error (.notAddress ip))
            | some address => Outcome.verdict <$>
                Context.check ⟨receiver, address.unmapped, Context.defaultLocalPart, trimmed helo, trimmed helo⟩
                  (trimmed helo)) := by
  refine ⟨senderOf_null_iff empty, fun h => ?_⟩
  have greeted : checkHelo receiver ip helo =
      checkHost receiver ip (trimmed helo) s!"{Context.defaultLocalPart}@{trimmed helo}" (trimmed helo) := by
    unfold checkHelo
    simp only [valid, ↓reduceIte]
  refine ⟨?_, ?_⟩
  · have sent := @senderOf_null envelope (trimmed helo) empty (by rwa [trimmed_trimmed])
    rw [trimmed_trimmed] at sent
    rw [checkSender_eq sent, if_pos valid, greeted]
  · rw [greeted]
    unfold checkHost Context.ofText
    rw [Context.splitSender_joined _ h]
    cases Address.ofText? ip <;> rfl

end

/-- An envelope of blanks around a pair of brackets is empty. -/
theorem checkSender_emptyEnvelope :
    bareEnvelope " <> " = "" ∧
      checkSender { clock := .whole 0 } "192.0.2.5" " <> " " mail.example.com\t" =
        checkHelo { clock := .whole 0 } "192.0.2.5" " mail.example.com\t" :=
  have empty : bareEnvelope " <> " = "" := by decide +kernel
  ⟨empty, ((checkSender_of_null empty (by decide +kernel)).2 (by decide +kernel)).1⟩

/-- A zone with a name that holds an at sign, and with the name behind the sign. -/
def atSignZone : Zone :=
  [("example.com", [("TXT", .fixed (.ok [.text "v=spf1 -all"]))]),
   ("user@example.com", [("TXT", .fixed (.ok [.text "v=spf1 +all"]))])]

/-- What stands before an at sign in the name is taken for the local part of the sender, and the policy of another name is
evaluated than in the check of the name itself. -/
theorem checkSender_atSign :
    bareEnvelope "" = "" ∧ Domain.isValid (trimmed "user@example.com") = true ∧
      let sent := (Client.ofZone atSignZone).run (checkSender { clock := .whole 0 } "192.0.2.5" "" "user@example.com") .unasked
      let greeted := (Client.ofZone atSignZone).run (checkHelo { clock := .whole 0 } "192.0.2.5" "user@example.com") .unasked
      sent.1.map (·.result) = .ok .fail ∧ sent.2.calls.map (·.question.name) = ["example.com"] ∧
        greeted.1.map (·.result) = .ok .pass ∧ greeted.2.calls.map (·.question.name) = ["user@example.com"] := by
  decide +kernel

end SenderPolicy
