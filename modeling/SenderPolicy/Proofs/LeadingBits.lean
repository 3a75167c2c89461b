import SenderPolicy.Address.Network
import SenderPolicy.Proofs.AddressText
import SenderPolicy.Proofs.Runnable
import SenderPolicy.Proofs.SteadyAnswers

/-! The leading bits of addresses. A host or mail mechanism matches if the client has the first bits of an address that is
found; how many, its prefix lengths say. To write an address with a length behind it, to read that text as a network and to
compare addresses under its mask comes to the same as to compare their first bits. -/

namespace SenderPolicy

open Dns Evaluation Text

variable {σ : Type}

/-! ### Bits -/

section
variable {w : Nat} (a b : BitVec w) (n : Nat)

/-- What is left of two words when all bits but the first are shifted out is the same if the first bits are. -/
theorem shiftRight_eq_iff : a >>> (w - n) = b >>> (w - n) ↔ ∀ i < n, a.getMsbD i = b.getMsbD i := by
  constructor
  · intro h i hi
    by_cases hw : i < w
    · have bit := congrArg (·.getMsbD (w - n + i)) h
      simpa [BitVec.getMsbD_ushiftRight, show w - n + i < w by omega, show ¬ w - n + i < w - n by omega] using bit
    · rw [BitVec.getMsbD_of_ge _ _ (Nat.not_lt.mp hw), BitVec.getMsbD_of_ge _ _ (Nat.not_lt.mp hw)]
  · intro h
    refine BitVec.eq_of_getMsbD_eq fun i hi => ?_
    rw [BitVec.getMsbD_ushiftRight, BitVec.getMsbD_ushiftRight]
    by_cases hs : i < w - n
    · simp [hs]
    · rw [h (i - (w - n)) (by omega)]

/-- The same goes for what is left of them under the mask of the first bits. -/
theorem and_mask_eq_iff : a &&& BitVec.allOnes w <<< (w - n) = b &&& BitVec.allOnes w <<< (w - n) ↔
    ∀ i < n, a.getMsbD i = b.getMsbD i := by
  have mask : ∀ i < w, (BitVec.allOnes w <<< (w - n)).getMsbD i = decide (i < n) := by
    intro i hi
    rw [BitVec.getMsbD_shiftLeft, BitVec.getMsbD_allOnes, decide_eq_decide]
    omega
  constructor
  · intro h i hi
    by_cases hw : i < w
    · have bit := congrArg (·.getMsbD i) h
      simpa [mask i hw, hi] using bit
    · rw [BitVec.getMsbD_of_ge _ _ (Nat.not_lt.mp hw), BitVec.getMsbD_of_ge _ _ (Nat.not_lt.mp hw)]
  · intro h
    refine BitVec.eq_of_getMsbD_eq fun i hi => ?_
    rw [BitVec.getMsbD_and, BitVec.getMsbD_and, mask i hi]
    by_cases hn : i < n
    · rw [h i hn]
    · simp [hn]

end

namespace Address

/-- The first bits of an address, from the highest on. -/
def leadingBits (length : Nat) : Address → List Bool
  | v4 bits => (List.range length).map bits.getMsbD
  | v6 bits _ => (List.range length).map bits.getMsbD

/-- Two addresses are of one family and have the same first bits. -/
def Agree (length : Nat) (a b : Address) : Prop := a.family = b.family ∧ a.leadingBits length = b.leadingBits length

/-- The address with all bits behind the first ones cleared, and without its scope. -/
def masked (length : Nat) : Address → Address
  | v4 bits => v4 (bits &&& BitVec.allOnes 32 <<< (32 - length))
  | v6 bits _ => v6 (bits &&& BitVec.allOnes 128 <<< (128 - length)) none

theorem map_range_eq_iff {α : Type} {f g : Nat → α} {n : Nat} :
    (List.range n).map f = (List.range n).map g ↔ ∀ i < n, f i = g i := by
  rw [List.map_inj_left]
  exact forall_congr' fun i => by rw [List.mem_range]

theorem sharesBits_iff {length : Nat} {a b : Address} : a.sharesBits length b = true ↔ a.Agree length b := by
  cases a <;> cases b <;>
    simp [sharesBits, Agree, family, leadingBits, shiftRight_eq_iff]

theorem masked_eq_iff {length : Nat} {a b : Address} : a.masked length = b.masked length ↔ a.Agree length b := by
  cases a <;> cases b <;>
    simp only [masked, Agree, family, leadingBits, reduceCtorEq, v4.injEq, v6.injEq, and_mask_eq_iff, map_range_eq_iff,
      true_and, false_and, and_true]

end Address

/-! ### Networks -/

namespace Network

theorem readLength_toString : (∀ n ≤ 32, readLength 32 (toString n).toList = some n) ∧
    ∀ n ≤ 128, readLength 128 (toString n).toList = some n := by
  constructor <;> decide

theorem readMask_toString {family : Family} {length : Nat} (h : length ≤ family.width) :
    readMask family (some (toString length).toList) = some length := by
  cases family with
  | v4 =>
    unfold readMask
    dsimp only
    rw [readLength_toString.1 length h]
    rfl
  | v6 => exact readLength_toString.2 length h

/-- The text of an address with a length behind a slash writes the network of that length around the address. -/
theorem ofText?_printed {s : String} {address : Address} {length : Nat} (h : Address.ofText? s = some address)
    (hl : length ≤ address.family.width) : ofText? s!"{address.text}/{length}" = some ⟨address, length⟩ := by
  have printed := Address.ofText?_text h
  have spelt : (s!"{address.text}/{length}").toList = address.text.toList ++ '/' :: (toString length).toList := by
    show (address.text ++ "/" ++ toString length).toList = _
    simp
  unfold ofText?
  rw [spelt, cutFirst_append (Address.slash_not_mem_of_ofText? printed)]
  dsimp only
  rw [show Address.ofChars? address.text.toList = some address from printed]
  show (readMask address.family (some (toString length).toList)).bind _ = _
  rw [readMask_toString hl]
  rfl

/-- An address lies in a network if it has the bits of the network under the mask of its length. -/
theorem contains_iff_masked {network : Network} {address : Address} :
    network.contains address = true ↔ address.masked network.length = network.address.masked network.length := by
  rw [contains, Address.sharesBits_iff, eq_comm, Address.masked_eq_iff]

end Network

namespace Evaluation

/-- Whether an address lies in the network of a length around one of some address texts of its family. Each network is
written as a text and read again. -/
def anyNetworkHolds (address : Address) (length : Nat) : List String → Except Fault Bool
  | [] => .ok false
  | text :: rest => match Address.ofText? text with
    | none => .error (.notAddress text)
    | some found =>
      if found.family ≠ address.family then anyNetworkHolds address length rest
      else match Network.ofText? s!"{found.text}/{length}" with
        | none => .error (.notAddress s!"{found.text}/{length}")
        | some network =>
          if address.masked network.length = network.address.masked network.length then .ok true
          else anyNetworkHolds address length rest

/-- To write networks and read them again comes to the same as to compare bits. -/
theorem anyNetworkHolds_eq {address : Address} {length : Nat} (hl : length ≤ address.family.width) :
    ∀ texts, anyNetworkHolds address length texts = anyShares address length texts
  | [] => rfl
  | text :: rest => by
    unfold anyNetworkHolds anyShares
    rw [anyNetworkHolds_eq hl rest]
    cases hf : Address.ofText? text with
    | none => rfl
    | some found =>
      dsimp only
      by_cases other : found.family = address.family
      · rw [if_neg (not_not_intro other), Network.ofText?_printed hf (other ▸ hl)]
        exact if_congr (@Network.contains_iff_masked ⟨found, length⟩ address).symm rfl rfl
      · have apart : ¬ found.sharesBits length address = true := fun shares => other (Address.sharesBits_iff.mp shares).1
        rw [if_pos other, if_neg apart]

/-! ### Addresses that are found -/

theorem anyShares_iff {address : Address} {length : Nat} {texts : List String} {shares : Bool}
    (h : anyShares address length texts = .ok shares) :
    shares = true ↔ ∃ text ∈ texts, ∃ found, Address.ofText? text = some found ∧ found.Agree length address := by
  induction texts with
  | nil =>
    cases h
    simp
  | cons text rest ih =>
    unfold anyShares at h
    cases hf : Address.ofText? text with
    | none =>
      rw [hf] at h
      cases h
    | some found =>
      rw [hf] at h
      dsimp only at h
      have first : (∃ f, Address.ofText? text = some f ∧ f.Agree length address) ↔ found.sharesBits length address = true := by
        rw [hf, Address.sharesBits_iff]
        simp
      rw [List.exists_mem_cons_iff, first]
      split at h
      · rename_i agrees
        cases h
        exact iff_of_true rfl (.inl agrees)
      · rename_i apart
        rw [ih h, or_iff_right apart]

/-- Among the addresses of a host, there is one of the family of an address that has the same first bits, as many as prefix
lengths ask for. -/
def Reaches (reply : Question → Answer) (cidr : DualCidr) (address : Address) (host : String) : Prop :=
  ∃ text, AnswerHolds reply ⟨host, addressType address.family, .mechanism⟩ text ∧
    ∃ found, Address.ofText? text = some found ∧ found.Agree (sharedLength cidr address.family) address

/-- One of the mail hosts of a target has such an address. -/
def ReachesByMail (reply : Question → Answer) (cidr : DualCidr) (address : Address) (target : String) : Prop :=
  ∃ texts hosts, reply ⟨target, .mx, .mechanism⟩ = .ok texts ∧ readMailHosts texts = .ok hosts ∧
    ∃ host ∈ hosts, Reaches reply cidr address host.hostname

theorem sharedLength_le {cidr : DualCidr} (h4 : ∀ n, cidr.ip4 = some n → n ≤ 32) (h6 : ∀ n, cidr.ip6 = some n → n ≤ 128)
    (family : Family) : sharedLength cidr family ≤ family.width := by
  have atMost : ∀ {length : Option Nat} {width : Nat}, (∀ n, length = some n → n ≤ width) → length.getD width ≤ width :=
    fun {length _} h => by
      cases length with
      | none => exact Nat.le_refl _
      | some n => exact h n rfl
  cases family with
  | v4 => exact atMost h4
  | v6 => exact atMost h6

section
variable {answer : Question → σ → Answer × σ} {context : Context} {I : σ → Prop} {reply : Question → Answer} {w w' : World σ}

theorem exec_isAmong_ok {cidr : DualCidr} {found : List String} {among : Bool}
    (he : exec answer context (isAmong cidr found) w = (.ok among, w')) :
    anyShares context.address (sharedLength cidr context.address.family) found = .ok among ∧ w' = w := by
  unfold isAmong at he
  rw [exec_read_bind] at he
  dsimp only at he
  split at he
  · rename_i shares hs
    cases he
    exact ⟨hs, rfl⟩
  · cases he

variable (h : Steady answer I reply)
include h

theorem hostAddresses_isAmong_iff (hw : I w.state) {host : String} {cidr : DualCidr} {among : Bool}
    (he : exec answer context (hostAddresses host context.address.family >>= isAmong cidr) w = (.ok among, w')) :
    (among = true ↔ Reaches reply cidr context.address host) ∧ I w'.state := by
  obtain ⟨found, w₁, hf, he⟩ := exec_bind_ok_iff.mp he
  obtain ⟨shares, rfl⟩ := exec_isAmong_ok he
  have perm := exec_hostAddresses_perm hf
  rw [h.answers ⟨host, addressType context.address.family, .mechanism⟩ w.state (addressType_ne_other _) hw] at perm
  refine ⟨?_, ?_⟩
  · rw [anyShares_iff shares]
    exact exists_congr fun text => and_congr_left fun _ => perm.mem_iff.trans mem_foundRecords_iff
  · exact h.kept (hostAddresses_composed host _).asksOnly hw hf

/-- The search stops at the first host that has such an address, and comes to the end if there is none. -/
theorem anyMailHost_iff {cidr : DualCidr} {hosts : List MailHost} {matched : Bool} (hw : I w.state)
    (he : exec answer context (anyMailHost cidr hosts) w = (.ok matched, w')) :
    matched = true ↔ ∃ host ∈ hosts, Reaches reply cidr context.address host.hostname := by
  induction hosts generalizing w with
  | nil =>
    cases he
    simp
  | cons host rest ih =>
    unfold anyMailHost at he
    rw [exec_read_bind, ← bind_assoc] at he
    obtain ⟨among, w₁, ha, he⟩ := exec_bind_ok_iff.mp he
    obtain ⟨first, kept⟩ := hostAddresses_isAmong_iff h hw ha
    rw [List.exists_mem_cons_iff, ← first]
    cases among with
    | true =>
      cases he
      simp
    | false => simpa using ih kept he

omit h in
/-- Both mechanisms count a lookup, split their value and find their target before they ask for addresses. -/
theorem exec_cidrTarget {d : Directive} {domain : String} {test : DualCidr → String → Evaluation Bool} {matched : Bool}
    (he : exec answer context (countLookup >>= fun _ => ofExcept (DualCidr.ofDirective d) >>= fun cidr =>
      targetName domain cidr.domainSpec >>= test cidr) w = (.ok matched, w')) :
    ∃ cidr target w₁, DualCidr.ofDirective d = .ok cidr ∧
      exec answer context (countedTarget domain cidr.domainSpec) w = (.ok target, w₁) ∧
      exec answer context (test cidr target) w₁ = (.ok matched, w') := by
  obtain ⟨_, w₁, counted, he⟩ := exec_bind_ok_iff.mp he
  obtain ⟨cidr, w₂, split, he⟩ := exec_bind_ok_iff.mp he
  rw [exec_ofExcept, Prod.mk.injEq] at split
  obtain ⟨split, rfl⟩ := split
  obtain ⟨target, w₂, named, he⟩ := exec_bind_ok_iff.mp he
  exact ⟨cidr, target, w₂, split, exec_bind_ok_iff.mpr ⟨_, _, counted, named⟩, he⟩

theorem matchesHost_iff {d : Directive} {domain : String} {matched : Bool} (hw : I w.state)
    (he : exec answer context (matchesHost d domain) w = (.ok matched, w')) :
    ∃ cidr target w₁, DualCidr.ofDirective d = .ok cidr ∧
      exec answer context (countedTarget domain cidr.domainSpec) w = (.ok target, w₁) ∧
      (matched = true ↔ Reaches reply cidr context.address target) := by
  obtain ⟨cidr, target, w₁, split, named, he⟩ := exec_cidrTarget he
  rw [exec_read_bind] at he
  exact ⟨cidr, target, w₁, split, named, (hostAddresses_isAmong_iff h (h.countedTarget_kept hw named) he).1⟩

theorem withMailHosts_iff {cidr : DualCidr} {target : String} {r : Except LookupError (List MailHost)} {matched : Bool}
    (hw : I w.state) (he : exec answer context (withMailHosts cidr target r) w = (.ok matched, w')) :
    matched = true ↔ ∃ hosts, r = .ok hosts ∧ ∃ host ∈ hosts, Reaches reply cidr context.address host.hostname := by
  rcases r with e | _ | ⟨host, rest⟩
  · -- a lookup without hosts is either counted or throws
    have unmatched : matched = false := by
      cases e with
      | noSuchDomain =>
        obtain ⟨_, _, -, he⟩ := exec_bind_ok_iff.mp he
        cases he
        rfl
      | _ => cases he
    simp [unmatched]
  · obtain ⟨_, _, -, he⟩ := exec_bind_ok_iff.mp he
    cases he
    simp
  · unfold withMailHosts at he
    rw [exec_read_bind] at he
    dsimp only at he
    split at he
    · cases he
    · rw [anyMailHost_iff h hw he]
      simp

omit h in
theorem reachesByMail_iff {cidr : DualCidr} {address : Address} {target : String} :
    ReachesByMail reply cidr address target ↔ ∃ hosts,
      (foundRecords (reply ⟨target, .mx, .mechanism⟩)).bind readMailHosts = .ok hosts ∧
        ∃ host ∈ hosts, Reaches reply cidr address host.hostname := by
  unfold ReachesByMail
  cases reply ⟨target, .mx, .mechanism⟩ with
  | ok texts => simp [foundRecords, Except.bind]
  | error e =>
    have none : readMailHosts [] = .ok [] := rfl
    cases e <;> simp [foundRecords, Except.bind, none]

theorem matchesMailHost_iff {d : Directive} {domain : String} {matched : Bool} (hw : I w.state)
    (he : exec answer context (matchesMailHost d domain) w = (.ok matched, w')) :
    ∃ cidr target w₁, DualCidr.ofDirective d = .ok cidr ∧
      exec answer context (countedTarget domain cidr.domainSpec) w = (.ok target, w₁) ∧
      (matched = true ↔ ReachesByMail reply cidr context.address target) := by
  rw [matchesMailHost_eq] at he
  obtain ⟨cidr, target, w₁, split, named, he⟩ := exec_cidrTarget he
  have asked : Question.Standard ⟨target, .mx, .mechanism⟩ := fun _ => nofun
  have hw₁ := h.countedTarget_kept hw named
  rw [exec_bind_of_ok (h.exec_attempt context asked hw₁)] at he
  exact ⟨cidr, target, w₁, split, named, (withMailHosts_iff h (h.keep _ _ asked hw₁) he).trans reachesByMail_iff.symm⟩

end

/-- Among the addresses of the family of an address that some texts write, there is one with the same first bits. This
is what writing each of them with a length behind it, reading the text as a network and masking the address comes to, with
prefix lengths of at most the width. If answers are fixed, a host mechanism that comes to a result matches just when the
target has such an address, and a mail mechanism when one of the mail hosts of the target has. -/
theorem matches_iff_agree :
    (∀ (address : Address) (cidr : DualCidr) (texts : List String),
      (∀ n, cidr.ip4 = some n → n ≤ 32) → (∀ n, cidr.ip6 = some n → n ≤ 128) → AllAddresses texts →
      let length := sharedLength cidr address.family
      ∃ among, anyNetworkHolds address length texts = .ok among ∧ anyShares address length texts = .ok among ∧
        (among = true ↔ ∃ text ∈ texts, ∃ found, Address.ofText? text = some found ∧ found.Agree length address)) ∧
    ∀ (client : Client) (context : Context) (policy : String → Evaluation Verdict) (d : Directive) (domain : String)
        (matched : Bool) (w w' : World ClientState),
      client.resolver.Fixed → (∃ settings, client.options.settings = .ok settings) → w.state.cache.Coherent client.resolver →
      (d.mechanism = .a ∨ d.mechanism = .mx) →
      exec client.answers context (matchesClient policy d domain) w = (.ok matched, w') →
      ∃ cidr target w₁, DualCidr.ofDirective d = .ok cidr ∧
        sharedLength cidr context.address.family ≤ context.address.family.width ∧
        exec client.answers context (countedTarget domain cidr.domainSpec) w = (.ok target, w₁) ∧
        (d.mechanism = .a → (matched = true ↔ Reaches client.reply cidr context.address target)) ∧
        (d.mechanism = .mx → (matched = true ↔ ReachesByMail client.reply cidr context.address target)) := by
  refine ⟨fun address cidr texts h4 h6 ha => ?_, fun client context policy d domain matched w w' hr ht hw hd he => ?_⟩
  · obtain ⟨among, shares⟩ : ∃ among, anyShares address (sharedLength cidr address.family) texts = .ok among :=
      anyShares_isOk ha
    exact ⟨among, (anyNetworkHolds_eq (sharedLength_le h4 h6 _) texts).trans shares, shares, anyShares_iff shares⟩
  · have steady := client.steady hr ht
    have fits {cidr : DualCidr} (split : DualCidr.ofDirective d = .ok cidr) :=
      sharedLength_le (lengths_of_ofDirective split).1 (lengths_of_ofDirective split).2 context.address.family
    unfold matchesClient at he
    rcases hd with hd | hd
    · rw [hd] at he
      obtain ⟨cidr, target, w₁, split, named, iff⟩ := matchesHost_iff steady hw he
      exact ⟨cidr, target, w₁, split, fits split, named, fun _ => iff, fun other => absurd (hd.symm.trans other) nofun⟩
    · rw [hd] at he
      obtain ⟨cidr, target, w₁, split, named, iff⟩ := matchesMailHost_iff steady hw he
      exact ⟨cidr, target, w₁, split, fits split, named, fun other => absurd (hd.symm.trans other) nofun, fun _ => iff⟩

/-- A domain and its mail host have addresses in the two halves of one range. -/
def halvesZone : Zone :=
  [("example.com", [("A", .fixed (.ok [.text "192.0.2.77"])), ("MX", .fixed (.ok [.text "10 mail.example.com."]))]),
   ("mail.example.com", [("A", .fixed (.ok [.text "192.0.2.130"]))])]

def halvesContext : Context := ⟨{ clock := .whole 0 }, .v4 0xC0000205, "user", "example.com", "mail.example.com"⟩

/-- A client in the first half of the range shares 24 bits with the domain, and not 25 with the mail host. -/
theorem matches_halvesZone :
    anyNetworkHolds halvesContext.address 25 ["192.0.2.130", "2001:db8::1", "192.0.2.77"] = .ok true ∧
      Reaches (Client.ofZone halvesZone).reply ⟨"", some 24, none⟩ halvesContext.address "example.com" ∧
      ¬ ReachesByMail (Client.ofZone halvesZone).reply ⟨"", some 25, none⟩ halvesContext.address "example.com" := by
  have fixed : (Client.ofZone halvesZone).resolver.Fixed := fixed_resolver (by decide)
  have empty : (World.fresh ClientState.unasked).state.cache.Coherent (Client.ofZone halvesZone).resolver :=
    Cache.coherent_of_empty rfl
  -- both directives have no name of their own
  have target {target : String} {w : World ClientState} (named : exec (Client.ofZone halvesZone).answers halvesContext
      (countedTarget "example.com" "") (.fresh .unasked) = (.ok target, w)) : target = "example.com" := by
    have own : (exec (Client.ofZone halvesZone).answers halvesContext (countedTarget "example.com" "")
      (.fresh .unasked)).1 = .ok "example.com" := by decide
    rw [named] at own
    exact Except.ok.inj own
  refine ⟨?_, ?_, ?_⟩
  · obtain ⟨among, holds, -, iff⟩ := matches_iff_agree.1 halvesContext.address ⟨"", some 25, none⟩
      ["192.0.2.130", "2001:db8::1", "192.0.2.77"] (by decide) (by decide) (by unfold AllAddresses; decide)
    obtain rfl : among = true := iff.mpr ⟨"192.0.2.77", by decide, .v4 0xC000024D, by decide, rfl, by decide⟩
    exact holds
  · obtain ⟨cidr, name, w₁, split, -, named, iff, -⟩ := matches_iff_agree.2 (Client.ofZone halvesZone) halvesContext
      (fun _ => pure ⟨.neutral, ""⟩) ⟨.plus, .a, .slash, "24", "a/24"⟩ "example.com" true (.fresh .unasked) _ fixed
      ⟨_, rfl⟩ empty (.inl rfl) (Prod.ext (by decide) rfl)
    cases (show DualCidr.ofDirective _ = .ok ⟨"", some 24, none⟩ by decide).symm.trans split
    exact target named ▸ (iff rfl).mp rfl
  · obtain ⟨cidr, name, w₁, split, -, named, -, iff⟩ := matches_iff_agree.2 (Client.ofZone halvesZone) halvesContext
      (fun _ => pure ⟨.neutral, ""⟩) ⟨.plus, .mx, .slash, "25", "mx/25"⟩ "example.com" false (.fresh .unasked) _ fixed
      ⟨_, rfl⟩ empty (.inr rfl) (Prod.ext (by decide) rfl)
    cases (show DualCidr.ofDirective _ = .ok ⟨"", some 25, none⟩ by decide).symm.trans split
    exact target named ▸ mt (iff rfl).mpr nofun

end Evaluation

end SenderPolicy
