import SenderPolicy.Proofs.KeptParts

/-! Reverse names. The macro for the address of a client cuts what it writes at the dots again and turns the parts round, and so
it comes, with the macro for the family behind it, to the name under which the host names of the client are looked up. That
lookup goes another way: it prints the address in its shortest form and reads it again. -/

namespace SenderPolicy

open Dns Text

namespace Address

variable {address : Address}

/-! ### Parts of addresses -/

/-- The parts of an address from the first to the last: four octets, or 32 hexadecimal digits. -/
def parts : Address → List (List Char)
  | v4 bits => (octets bits).map fun octet => (toString octet).toList
  | v6 bits _ => (nibbles bits).map ([·])

theorem parts_ne_nil (address : Address) : address.parts ≠ [] := by
  cases address with
  | v4 bits => exact List.cons_ne_nil _ _
  | v6 bits scope =>
    intro h
    have length := congrArg List.length h
    simp [parts, nibbles] at length

theorem mem_parts : ∀ part ∈ address.parts, ∀ c ∈ part, ∃ d < 16, c = Nat.digitChar d := by
  intro part hp c hc
  cases address with
  | v4 bits =>
    obtain ⟨octet, -, rfl⟩ := List.mem_map.mp hp
    rw [show toString octet = octet.repr from rfl, Nat.toList_repr] at hc
    obtain ⟨d, hd, rfl⟩ := exists_digit_of_mem_toDigits (by decide) c hc
    exact ⟨d, by omega, rfl⟩
  | v6 bits scope =>
    obtain ⟨digit, hd, rfl⟩ := List.mem_map.mp hp
    obtain ⟨i, -, rfl⟩ := List.mem_map.mp hd
    exact ⟨_, Nat.mod_lt _ (by decide), List.mem_singleton.mp hc⟩

theorem dot_not_mem_parts : ∀ part ∈ address.parts, '.' ∉ part := by
  have digit : ∀ d < 16, '.' ≠ Nat.digitChar d := by decide
  intro part hp dot
  obtain ⟨d, hd, same⟩ := mem_parts part hp '.' dot
  exact digit d hd same

/-- Macros write the parts of an address with dots between them. -/
theorem macroText_parts (unscoped : ¬ address.IsScoped) : address.macroText = .ok (String.ofList (joined ['.'] address.parts)) := by
  rcases address with bits | ⟨bits, _ | scope⟩
  · rfl
  · exact macroText_unscoped bits
  · exact absurd trivial unscoped

/-! ### Reverse names -/

/-- The name of the family in reverse names, as macros write it. -/
def zone (address : Address) : String := if address.family = .v4 then "in-addr" else "ip6"

/-- The parts of an address from the last to the first, and the zone in which its host names lie, without a final dot. -/
def arpaName (address : Address) : String :=
  String.ofList (joined ['.'] address.parts.reverse) ++ "." ++ address.zone ++ ".arpa"

theorem unmapped_unmapped (address : Address) : address.unmapped.unmapped = address.unmapped := by
  cases address with
  | v4 bits => rfl
  | v6 bits scope =>
    by_cases mapped : bits >>> 32 == 0xFFFF
    · simp only [unmapped, if_pos mapped]
    · simp only [unmapped, if_neg mapped]

/-- The host names of an address that is not mapped are looked up under its parts. -/
theorem reverseName?_arpaName (unscoped : ¬ address.IsScoped) (whole : address.unmapped = address) :
    address.reverseName? = some (address.arpaName ++ ".") := by
  rcases address with bits | ⟨bits, _ | scope⟩
  · have spelt : joined ['.'] ((octets bits).reverse.map fun octet => (toString octet).toList) ++ ".in-addr.arpa.".toList =
        (arpaName (v4 bits) ++ ".").toList := by
      simp [arpaName, parts, zone, family, List.map_reverse]
    show some (String.ofList _) = _
    rw [spelt, String.ofList_toList]
  · have spelt : joined ['.'] ((nibbles bits).reverse.map ([·])) ++ ".ip6.arpa.".toList = (arpaName (v6 bits none) ++ ".").toList := by
      simp [arpaName, parts, zone, family, List.map_reverse]
    unfold reverseName?
    rw [whole]
    show some (String.ofList _) = _
    rw [spelt, String.ofList_toList]
  · exact absurd trivial unscoped

/-- A mapped address has the reverse name of the address that it carries. -/
theorem reverseName?_unmapped (unscoped : ¬ address.IsScoped) : address.reverseName? = address.unmapped.reverseName? := by
  rcases address with bits | ⟨bits, _ | scope⟩
  · rfl
  · by_cases mapped : bits >>> 32 == 0xFFFF
    · have carried : (v6 bits none).unmapped = v4 (bits.setWidth 32) := if_pos mapped
      unfold reverseName?
      rw [unmapped_unmapped, carried]
    · have own : (v6 bits none).unmapped = v6 bits none := if_neg mapped
      rw [own]
  · exact absurd trivial unscoped

/-! ### Printing and reading -/

theorem withoutLineEnd_of_not_mem {s : List Char} (h : '\n' ∉ s) : withoutLineEnd s = s := by
  unfold withoutLineEnd
  split
  · rename_i last _
    exact absurd (List.mem_of_getLast? last) h
  · rfl

theorem lineEnd_not_mem_text (unscoped : ¬ address.IsScoped) : '\n' ∉ address.text.toList := by
  intro h
  rcases address with bits | ⟨bits, _ | scope⟩
  · rw [text, String.toList_ofList] at h
    exact absurd (plain_dotted bits _ h) (by decide)
  · rw [text, String.toList_ofList] at h
    exact absurd (plain_compressed bits _ h) (by decide)
  · exact absurd trivial unscoped

/-- The lookup reads the printed address, and finds the address itself. -/
theorem reverseNameOfText?_text (unscoped : ¬ address.IsScoped) : reverseNameOfText? address.text = address.reverseName? := by
  have back : ofChars? address.text.toList = some address := ofText?_text_of_unscoped unscoped
  rw [reverseNameOfText?, withoutLineEnd_of_not_mem (lineEnd_not_mem_text unscoped), back, Option.bind_some]

/-- A reverse name is asked for as it is. -/
theorem normalized_arpaName (address : Address) : Domain.normalized (address.arpaName ++ ".") = address.arpaName ++ "." := by
  have settled : MadeOf (fun c => c.toNat < 128 ∧ c.toLower = c) (address.arpaName ++ ".") := by
    have digit : ∀ d < 16, (Nat.digitChar d).toNat < 128 ∧ (Nat.digitChar d).toLower = Nat.digitChar d := by decide
    have zone : MadeOf (fun c => c.toNat < 128 ∧ c.toLower = c) address.zone := by
      unfold Address.zone
      split <;> decide
    simp only [arpaName, madeOf_append, madeOf_ofList]
    refine ⟨⟨⟨⟨fun c hc => ?_, by decide⟩, zone⟩, by decide⟩, by decide⟩
    rcases mem_joined hc with dot | ⟨part, hp, hc⟩
    · rw [List.mem_singleton.mp dot]
      decide
    · obtain ⟨d, hd, rfl⟩ := mem_parts part (List.mem_reverse.mp hp) c hc
      exact digit d hd
  have ascii : MadeOf IsAscii (address.arpaName ++ ".") := settled.mono fun _ h => h.1
  rw [normalized_of_ascii ascii, lower_of_ascii ascii, lowered_eq_self fun c hc => (settled c hc).2, String.ofList_toList]

end Address

namespace Evaluation

theorem transform_turned (letter : Letter) {parts : List (List Char)} (undotted : ∀ part ∈ parts, '.' ∉ part) (ne : parts ≠ []) :
    (⟨letter, none, true, "", false⟩ : Macro).transform (String.ofList (joined ['.'] parts)) =
      String.ofList (joined ['.'] parts.reverse) := by
  have cut : pieces ['.'].contains (joined ['.'] parts) = parts := by
    rw [pieces_joined rfl, if_neg ne]
    intro part hp c hc
    have other : c ≠ '.' := fun dot => undotted part hp (dot ▸ hc)
    simpa using other
  have kept : (⟨letter, none, true, "", false⟩ : Macro).keptParts (joined ['.'] parts) = parts.reverse :=
    (Macro.keptParts_of_none rfl _).trans (congrArg List.reverse cut)
  show String.ofList (joined ['.'] (Macro.keptParts _ (String.ofList _).toList)) = _
  rw [String.toList_ofList, kept]

/-- The macros for the address and the family write the reverse name, without a question. -/
theorem inquiry_expand_arpaName {context : Context} (unscoped : ¬ context.address.IsScoped) (explanation : Bool) (domain : String)
    (counters : Counters) :
    (expand explanation domain "%{ir}.%{v}.arpa").inquiry context counters = .done (.ok context.address.arpaName, counters) := by
  have read : readTokens explanation "%{ir}.%{v}.arpa".toList = .ok [.expansion ⟨.address, none, true, "", false⟩, .literal ".",
      .expansion ⟨.family, none, false, "", false⟩, .literal ".arpa"] := by
    cases explanation <;> rfl
  have address : addressText context.address = pure (String.ofList (joined ['.'] context.address.parts)) := by
    unfold addressText
    rw [Address.macroText_parts unscoped]
  unfold expand
  rw [read]
  show Evaluation.inquiry (addressText context.address >>= fun value =>
    expandTokens explanation domain [.literal ".", .expansion ⟨.family, none, false, "", false⟩, .literal ".arpa"] >>= fun later =>
      pure ((⟨.address, none, true, "", false⟩ : Macro).transform value ++ later)) context counters = _
  rw [address]
  show Inquiry.done (Except.ok ((⟨.address, none, true, "", false⟩ : Macro).transform _ ++
    ("." ++ ((⟨.family, none, false, "", false⟩ : Macro).transform context.address.zone ++ (".arpa" ++ "")))), counters) = _
  rw [transform_turned .address Address.dot_not_mem_parts (Address.parts_ne_nil _), transform_plain, String.append_empty,
    Address.arpaName, String.append_assoc, String.append_assoc]

/-- For a client address without a scope, the macros for the address and the family write, without a question and whatever the
domain, the name that the lookup of host names asks for, but for the final dot. -/
theorem expand_reverseName {receiver : Receiver} {ip sender helo : String} {context : Context}
    (h : Context.ofText receiver ip sender helo = .ok context) (unscoped : ¬ context.address.IsScoped) :
    ∃ name : String,
      (∀ explanation domain counters,
        (expand explanation domain "%{ir}.%{v}.arpa").inquiry context counters = .done (.ok name, counters)) ∧
      Address.reverseNameOfText? context.address.text = some (name ++ ".") ∧
      (∀ purpose, ∃ next, (pointers purpose (Address.reverseNameOfText? context.address.text)).run =
        .ask ⟨name ++ ".", .ptr, purpose⟩ next) ∧
      Domain.normalized (name ++ ".") = name ++ "." ∧
      (∀ address, Address.ofText? ip = some address → ¬ address.IsScoped → address.reverseName? = some (name ++ ".")) := by
  obtain ⟨address, read, carried⟩ : ∃ address, Address.ofText? ip = some address ∧ address.unmapped = context.address := by
    unfold Context.ofText at h
    split at h
    · cases h
    · rename_i address read
      cases h
      exact ⟨address, read, rfl⟩
  have whole : context.address.unmapped = context.address := carried ▸ Address.unmapped_unmapped address
  have own := Address.reverseName?_arpaName unscoped whole
  have printed := (Address.reverseNameOfText?_text unscoped).trans own
  refine ⟨context.address.arpaName, fun _ _ _ => inquiry_expand_arpaName unscoped _ _ _, printed, ?_,
    Address.normalized_arpaName _, ?_⟩
  · intro purpose
    rw [printed]
    exact ⟨_, rfl⟩
  · intro other read' unscoped'
    cases read.symm.trans read'
    rw [Address.reverseName?_unmapped unscoped', carried, own]

/-- A mapped client address goes by the address that it carries. -/
theorem expand_reverseName_mapped : ∃ context,
    Context.ofText { clock := .whole 0 } "::ffff:192.0.2.1" "user@example.com" "mail.example.com" = .ok context ∧
      ¬ context.address.IsScoped ∧
      (expand false "example.com" "%{ir}.%{v}.arpa").inquiry context {} = .done (.ok "1.2.0.192.in-addr.arpa", {}) ∧
      Address.reverseNameOfText? context.address.text = some "1.2.0.192.in-addr.arpa." := by
  have built : Context.ofText { clock := .whole 0 } "::ffff:192.0.2.1" "user@example.com" "mail.example.com" =
      .ok ⟨{ clock := .whole 0 }, .v4 0xC0000201, "user", "example.com", "mail.example.com"⟩ := by decide
  have unscoped : ¬ (Address.v4 0xC0000201).IsScoped := nofun
  obtain ⟨name, written, asked, -⟩ := expand_reverseName built unscoped
  have lookedUp : Address.reverseNameOfText? (Address.v4 0xC0000201).text = some "1.2.0.192.in-addr.arpa." := by decide
  obtain rfl : name = "1.2.0.192.in-addr.arpa" := by
    have same := Option.some.inj (asked.symm.trans lookedUp)
    exact String.append_left_inj "." |>.mp same
  exact ⟨_, built, unscoped, written false "example.com" {}, asked⟩

end Evaluation

end SenderPolicy
