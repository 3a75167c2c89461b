import Mathlib.Data.List.DropRight
import SenderPolicy.Proofs.Faults
import SenderPolicy.Proofs.KeptParts
import SenderPolicy.Proofs.SteadyAnswers

/-! Confirmed names. Of the host names that the reverse name of a client has, those count whose addresses hold the address of
the client. A pointer mechanism matches if one of them lies within its target, and the macro for the name of the client stands
for one of them, so the two agree on every domain. Lookups that fail only take away the names they are for. -/

namespace SenderPolicy

open Dns Evaluation Text

variable {σ : Type}

/-! ### Dots in lower case -/

namespace Text

variable {before after s : List Char} {c : Char}

/-- Lower case makes a dot of a dot only. -/
theorem dot_iff_of_mem_lowerChar {d : Char} (h : d ∈ lowerChar before c after) : d = '.' ↔ c = '.' := by
  rcases lowerChar_cases h with ⟨ascii, rfl⟩ | ⟨foreign, rfl | rfl | letter⟩
  · exact forall_ascii (p := fun c => c.toLower = '.' ↔ c = '.') (by decide) ascii
  · exact Iff.rfl
  · refine iff_of_false (by decide) ?_
    rintro rfl
    exact absurd foreign (by decide)
  · refine iff_of_false ?_ ?_ <;> rintro rfl
    · exact absurd letter (by decide)
    · exact absurd foreign (by decide)

theorem lowerChar_ne_nil : lowerChar before c after ≠ [] := by
  unfold lowerChar
  dsimp only
  split
  · split <;> exact nofun
  · split
    · exact nofun
    · split <;> exact nofun

theorem lowerFrom_ne_nil (h : s ≠ []) : lowerFrom before s ≠ [] := by
  cases s with
  | nil => exact absurd rfl h
  | cons c s => exact List.append_ne_nil_of_left_ne_nil lowerChar_ne_nil _

theorem lowerFrom_dot (before front back : List Char) :
    ∃ front' before', lowerFrom before (front ++ '.' :: back) = front' ++ '.' :: lowerFrom before' back := by
  induction front generalizing before with
  | nil => exact ⟨[], '.' :: before, rfl⟩
  | cons c front ih =>
    obtain ⟨front', before', h⟩ := ih (c :: before)
    exact ⟨lowerChar before c (front ++ '.' :: back) ++ front', before', by
      rw [List.cons_append, lowerFrom, h, List.append_assoc]⟩

theorem exists_ne_dot_lowerFrom (before : List Char) (h : ∃ c ∈ s, c ≠ '.') : ∃ d ∈ lowerFrom before s, d ≠ '.' := by
  induction s generalizing before with
  | nil => exact absurd h (by simp)
  | cons c s ih =>
    rw [List.exists_mem_cons_iff] at h
    unfold lowerFrom
    rcases h with h | h
    · obtain ⟨d, hd⟩ := List.exists_mem_of_ne_nil _ (@lowerChar_ne_nil before s c)
      exact ⟨d, List.mem_append_left _ hd, mt (dot_iff_of_mem_lowerChar hd).mp h⟩
    · obtain ⟨d, hd, hne⟩ := ih (c :: before) h
      exact ⟨d, List.mem_append_right _ hd, hne⟩

theorem getLast?_lowerFrom (h : (lowerFrom before s).getLast? = some '.') : s.getLast? = some '.' := by
  induction s generalizing before with
  | nil => cases h
  | cons c s ih =>
    unfold lowerFrom at h
    cases s with
    | nil =>
      rw [lowerFrom, List.append_nil] at h
      rw [(dot_iff_of_mem_lowerChar (List.mem_of_getLast? h)).mp rfl]
      rfl
    | cons d s =>
      rw [List.getLast?_append_of_ne_nil _ (lowerFrom_ne_nil (List.cons_ne_nil d s))] at h
      rw [List.getLast?_cons_cons]
      exact ih h

theorem getLast?_lower {name : String} (h : (lower name).toList.getLast? = some '.') : name.toList.getLast? = some '.' := by
  rw [lower, String.toList_ofList] at h
  exact getLast?_lowerFrom h

end Text

namespace Domain

theorem withoutDots_of_getLast? {name : String} (h : name.toList.getLast? ≠ some '.') : withoutDots name = name := by
  have kept : dropTrailing (· == '.') name.toList = name.toList :=
    List.rdropWhile_eq_self_iff.mpr fun ne => by
      rw [beq_iff_eq]
      exact fun dot => h (dot ▸ List.getLast?_eq_some_getLast ne)
  rw [withoutDots, kept, String.ofList_toList]

theorem getLast?_withoutDots (name : String) : (withoutDots name).toList.getLast? ≠ some '.' := by
  rw [withoutDots, String.toList_ofList]
  intro h
  have ne : dropTrailing (· == '.') name.toList ≠ [] := fun nil => by rw [nil] at h; cases h
  refine List.rdropWhile_last_not (· == '.') name.toList ne ?_
  rw [beq_iff_eq]
  rw [List.getLast?_eq_some_getLast ne] at h
  exact Option.some.inj h

theorem isBelow_dot {parent name : String} (h : isBelow parent name = true) : '.' ∈ name.toList :=
  (List.isSuffixOf_iff_suffix.mp h).subset List.mem_cons_self

theorem dot_of_hasLabels {s : List Char} (h : hasLabels s = true) : ∃ front back, s = front ++ '.' :: back ∧ ∃ c ∈ back, c ≠ '.' := by
  have whole : withoutFinalDot s <+: s := by
    unfold withoutFinalDot
    split
    · exact List.dropLast_prefix s
    · exact List.prefix_rfl
  unfold hasLabels at h
  dsimp only at h
  rw [Bool.and_eq_true, decide_eq_true_eq] at h
  obtain ⟨two, filled⟩ := h
  have dot : '.' ∈ withoutFinalDot s := by
    by_contra absent
    have single : pieces (· == '.') (withoutFinalDot s) = [withoutFinalDot s] := pieces_of_not_mem absent
    rw [single] at two
    exact absurd two (by simp)
  obtain ⟨front, back, spelt⟩ := List.append_of_mem dot
  rw [spelt] at whole filled
  obtain ⟨rest, whole⟩ := whole
  refine ⟨front, back ++ rest, by rw [← whole, List.append_assoc, List.cons_append], ?_⟩
  rw [pieces_append_cons rfl, List.all_append, Bool.and_eq_true] at filled
  -- the label behind the dot is not empty
  cases back with
  | nil => exact absurd filled.2 (by simp [pieces])
  | cons c back =>
    refine ⟨c, List.mem_cons_self, fun dot => ?_⟩
    subst dot
    exact absurd filled.2 (by simp [pieces])

/-- A domain name has a dot that is not at its end. -/
theorem dot_of_isValid {domain : String} (h : isValid domain = true) :
    ∃ front back, domain.toList = front ++ '.' :: back ∧ ∃ c ∈ back, c ≠ '.' := by
  unfold isValid hasLabelsUpToLineEnd at h
  dsimp only at h
  simp only [Bool.and_eq_true, Bool.or_eq_true] at h
  rcases h.1.2 with h | ⟨-, h⟩
  · exact dot_of_hasLabels h
  · obtain ⟨front, back, spelt, c, hc, hne⟩ := dot_of_hasLabels h
    obtain ⟨last, whole⟩ := List.dropLast_prefix domain.toList
    refine ⟨front, back ++ last, ?_, c, List.mem_append_left _ hc, hne⟩
    rw [← whole, spelt, List.append_assoc, List.cons_append]

theorem dot_mem_withoutDots_lower {domain : String} (h : isValid domain = true) : '.' ∈ (withoutDots (lower domain)).toList := by
  obtain ⟨front, back, spelt, later⟩ := dot_of_isValid h
  obtain ⟨front', before', lowered⟩ := lowerFrom_dot [] front back
  obtain ⟨d, hd, hne⟩ := exists_ne_dot_lowerFrom before' later
  have left : (lowerFrom before' back).reverse.dropWhile (· == '.') ≠ [] := fun nil =>
    hne (beq_iff_eq.mp (List.dropWhile_eq_nil_iff.mp nil d (List.mem_reverse.mpr hd)))
  rw [withoutDots, lower, String.toList_ofList, String.toList_ofList, spelt, lowered, dropTrailing, List.reverse_append,
    List.reverse_cons, List.append_assoc, List.dropWhile_append, if_neg (by simpa using left)]
  simp

end Domain

/-! ### Names that lead back -/

namespace Dns

/-- Answers to questions for addresses hold nothing else, and host names in answers have no dots at their ends. -/
structure Proper (reply : Question → Answer) : Prop where
  addresses : ∀ q texts, q.ForAddresses → reply q = .ok texts → AllAddresses texts
  undotted : ∀ q names, q.type = .ptr → reply q = .ok names → ∀ name ∈ names, name.toList.getLast? ≠ some '.'

theorem Client.proper_reply {client : Client} (ha : client.resolver.GivesAddresses) : Proper client.reply where
  addresses _ _ hq h := allAddresses_of_reply ha hq h
  undotted q names hq h name hm := by
    obtain ⟨asked, h⟩ := exists_of_settled h
    unfold Resolver.answer at h
    cases hg : client.resolver [] { q with name := asked } with
    | error e =>
      rw [hg] at h
      cases h
    | ok given =>
      rw [hg] at h
      obtain rfl : readReply q.type given = names := Except.ok.inj h
      unfold readReply at hm
      rw [if_neg (by rw [hq]; exact nofun)] at hm
      obtain ⟨record, -, rfl⟩ := List.mem_map.mp hm
      cases record with
      | text data => exact Domain.getLast?_withoutDots data
      | strings parts => exact nofun

section
variable {reply : Question → Answer} {purpose : Purpose} {address : Address} {names : List String}

/-- Whether the addresses of a name hold a given one. -/
def leadsBack (reply : Question → Answer) (purpose : Purpose) (address : Address) (name : String) : Bool :=
  ((foundRecords (reply ⟨name, addressType address.family, purpose⟩)).toOption.getD []).any
    (Address.ofText? · = some address)

theorem leadsBack_iff {name : String} : leadsBack reply purpose address name = true ↔
    ∃ text, AnswerHolds reply ⟨name, addressType address.family, purpose⟩ text ∧ Address.ofText? text = some address := by
  unfold leadsBack
  simp only [List.any_eq_true, decide_eq_true_eq, mem_foundRecords_iff]

theorem anyWrites_eq {texts : List String} (h : AllAddresses texts) :
    anyWrites address texts = .ok (texts.any (Address.ofText? · = some address)) := by
  induction texts with
  | nil => rfl
  | cons text rest ih =>
    obtain ⟨found, hf⟩ := Option.isSome_iff_exists.mp (h text List.mem_cons_self)
    unfold anyWrites
    rw [List.any_cons, hf]
    dsimp only
    split
    · rename_i same
      simp [same]
    · rename_i other
      rw [ih fun text hm => h text (List.mem_cons_of_mem _ hm)]
      simp [other]

theorem Proper.found (h : Proper reply) {q : Question} (hq : q.ForAddresses) {texts : List String}
    (hf : foundRecords (reply q) = .ok texts) : AllAddresses texts := fun text hm =>
  have held : text ∈ (foundRecords (reply q)).toOption.getD [] := by rwa [hf]
  have ⟨texts, given, hm⟩ := mem_foundRecords_iff.mp held
  h.addresses q texts hq given text hm

theorem value_addresses (purpose : Purpose) (name : String) (family : Family) :
    (addresses purpose name [family]).run.value reply =
      (foundRecords (reply ⟨name, addressType family, purpose⟩)).map (sorted textLE) := by
  rw [addresses_run, Inquiry.value_bind, value_records]
  rfl

/-- Each name is tried, whatever comes of the others. -/
theorem value_confirmed (h : Proper reply) :
    (confirmed purpose address names).run.value reply = .ok ((names.filter (leadsBack reply purpose address)).map lower) := by
  induction names with
  | nil => rfl
  | cons name rest ih =>
    unfold confirmed
    rw [value_bind_exceptT, value_lift_exceptT, value_addresses, List.filter_cons]
    cases hr : foundRecords (reply ⟨name, addressType address.family, purpose⟩) with
    | error e =>
      -- the name is passed over, and the search goes on
      have passed : leadsBack reply purpose address name = false := by
        unfold leadsBack
        rw [hr]
        rfl
      rw [passed]
      exact ih
    | ok texts =>
      have all : AllAddresses texts := h.found (forAddresses_addressType address.family name purpose) hr
      have leads : leadsBack reply purpose address name = texts.any (Address.ofText? · = some address) := by
        unfold leadsBack
        rw [hr]
        rfl
      dsimp only [Except.map, Except.bind]
      rw [anyWrites_eq all.sorted, (sorted_perm textLE texts).any_eq, ← leads]
      show Inquiry.value reply (ExceptT.run (confirmed purpose address rest >>= fun names =>
        pure (if leadsBack reply purpose address name then lower name :: names else names))) = _
      rw [value_bind_exceptT, ih]
      cases leadsBack reply purpose address name <;> rfl

/-- The host names of a reverse name, of which only the first are tried. -/
def reverseNames (reply : Question → Answer) (purpose : Purpose) (address : Address) : Except LookupError (List String) :=
  (pointers purpose address.reverseName?).run.value reply

theorem value_confirmedNames (h : Proper reply) (limit : Int) :
    (confirmedNames purpose limit address).run.value reply = match reverseNames reply purpose address with
      | .error e => .error (.reverse e)
      | .ok names => .ok (((firstOf limit names).filter (leadsBack reply purpose address)).map lower) := by
  unfold confirmedNames
  rw [value_bind_exceptT, value_lift_exceptT]
  unfold reverseNames
  cases (pointers purpose address.reverseName?).run.value reply with
  | error e => rfl
  | ok names => exact value_confirmed h

theorem reverseNames_of_none (h : address.reverseName? = none) : reverseNames reply purpose address = .error .malformedAddress := by
  unfold reverseNames
  rw [h]
  rfl

theorem reverseNames_of_some {reverse : String} (h : address.reverseName? = some reverse) :
    reverseNames reply purpose address = match foundRecords (reply ⟨reverse, .ptr, purpose⟩) with
      | .error .noSuchDomain => .ok []
      | r => r := by
  unfold reverseNames
  rw [h]
  show ((records ⟨reverse, .ptr, purpose⟩).run.bind _).value reply = _
  rw [Inquiry.value_bind, value_records]
  rcases foundRecords (reply ⟨reverse, .ptr, purpose⟩) with e | names
  · cases e <;> rfl
  · rfl

/-- A failing lookup and one without names come to the same: there is no name. -/
theorem mem_reverseNames_iff {limit : Int} {name : String} :
    name ∈ firstOf limit ((reverseNames reply purpose address).toOption.getD []) ↔
      ∃ reverse names, address.reverseName? = some reverse ∧ reply ⟨reverse, .ptr, purpose⟩ = .ok names ∧
        name ∈ firstOf limit names := by
  have nameless : firstOf limit ([] : List String) = [] := by simp [firstOf]
  cases hr : address.reverseName? with
  | none => simp [reverseNames_of_none hr, Except.toOption, nameless]
  | some reverse =>
    simp only [reverseNames_of_some hr, Option.some.injEq, exists_and_left, exists_eq_left']
    cases reply ⟨reverse, .ptr, purpose⟩ with
    | error e =>
      cases e <;> simp [foundRecords, LookupError.ofResolver, ResolverError.isTemporary, Except.toOption, nameless]
    | ok names => simp [foundRecords, Except.toOption]

end

end Dns

namespace Evaluation

/-- Among the first host names that the reverse name of an address has, as many as a limit allows, there is a name whose
addresses hold the address. -/
structure Confirms (reply : Question → Answer) (limit : Int) (address : Address) (name : String) : Prop where
  given : ∃ reverse names, address.reverseName? = some reverse ∧ reply ⟨reverse, .ptr, .confirmation⟩ = .ok names ∧
    name ∈ firstOf limit names
  leads : ∃ text, AnswerHolds reply ⟨name, addressType address.family, .confirmation⟩ text ∧ Address.ofText? text = some address

/-- The confirmed names of a client in lower case. -/
def confirmedOf (reply : Question → Answer) (context : Context) : List String :=
  ((firstOf context.receiver.limits.pointers ((reverseNames reply .confirmation context.address).toOption.getD [])).filter
    (leadsBack reply .confirmation context.address)).map lower

section
variable {answer : Question → σ → Answer × σ} {I : σ → Prop} {reply : Question → Answer} {w : World σ} (context : Context)

theorem mem_confirmedOf_iff {context : Context} {name : String} : name ∈ confirmedOf reply context ↔
    ∃ given, Confirms reply context.receiver.limits.pointers context.address given ∧ lower given = name := by
  unfold confirmedOf
  simp only [List.mem_map, List.mem_filter, mem_reverseNames_iff, leadsBack_iff]
  exact exists_congr fun given => and_congr_left' ⟨fun h => ⟨h.1, h.2⟩, fun h => ⟨h.given, h.leads⟩⟩

theorem exists_mem_confirmedOf_iff {context : Context} {p : String → Prop} : (∃ name ∈ confirmedOf reply context, p name) ↔
    ∃ given, Confirms reply context.receiver.limits.pointers context.address given ∧ p (lower given) := by
  constructor
  · rintro ⟨name, mem, holds⟩
    obtain ⟨given, confirms, rfl⟩ := mem_confirmedOf_iff.mp mem
    exact ⟨given, confirms, holds⟩
  · rintro ⟨given, confirms, holds⟩
    exact ⟨_, mem_confirmedOf_iff.mpr ⟨given, confirms, rfl⟩, holds⟩

theorem Confirms.undotted (hp : Proper reply) {limit : Int} {address : Address} {name : String}
    (h : Confirms reply limit address name) : (lower name).toList.getLast? ≠ some '.' := by
  obtain ⟨reverse, names, -, given, first⟩ := h.given
  have mem : name ∈ names := by
    unfold firstOf at first
    split at first <;> exact List.mem_of_mem_take first
  exact mt getLast?_lower (hp.undotted _ names rfl given name mem)

theorem exec_clientNames (h : Steady answer I reply) (hp : Proper reply) (hw : I w.state) :
    ∃ r s, exec answer context clientNames w = (.ok r, ⟨w.counters, s⟩) ∧ r.toOption.getD [] = confirmedOf reply context := by
  have asks : (confirmedNames .confirmation context.receiver.limits.pointers context.address).run.AsksOnly Question.Standard :=
    confirmedNames_asksOnly (fun _ _ => nofun) fun _ => addressType_ne_other _
  have names := h.run_eq asks hw
  have nameless : firstOf context.receiver.limits.pointers ([] : List String) = [] := by simp [firstOf]
  rw [value_confirmedNames hp] at names
  unfold clientNames
  rw [exec_read_bind, exec_bind, exec_ofInquiry]
  dsimp only
  unfold confirmedOf
  rw [names]
  cases reverseNames reply .confirmation context.address with
  | error e => exact ⟨_, _, rfl, by simp [Except.toOption, nameless]⟩
  | ok names => exact ⟨_, _, rfl, rfl⟩

/-! ### The mechanism -/

/-- Whatever the lookups come to, there is an answer, and only confirmed names count for it. -/
theorem exec_anyConfirmedBelow (h : Steady answer I reply) (hp : Proper reply) (hw : I w.state) (target : String) :
    ∃ matched w', exec answer context (anyConfirmedBelow target) w = (.ok matched, w') ∧
      (matched = true ↔ ∃ name ∈ confirmedOf reply context, name = target ∨ Domain.isBelow target name = true) := by
  obtain ⟨r, s, names, found⟩ := exec_clientNames context h hp hw
  have any : (r.toOption.getD []).any (fun name =>
      Domain.withoutDots name == target || Domain.isBelow target (Domain.withoutDots name)) = true ↔
      ∃ name ∈ confirmedOf reply context, name = target ∨ Domain.isBelow target name = true := by
    rw [found, List.any_eq_true]
    refine exists_congr fun name => and_congr_right fun mem => ?_
    obtain ⟨given, confirms, rfl⟩ := mem_confirmedOf_iff.mp mem
    rw [Domain.withoutDots_of_getLast? (confirms.undotted hp), Bool.or_eq_true, beq_iff_eq]
  unfold anyConfirmedBelow
  rw [exec_bind_of_ok names, ← any]
  cases r with
  | error e => exact ⟨false, _, rfl, by simp [Except.toOption]⟩
  | ok names => exact ⟨_, _, rfl, Iff.rfl⟩

end

/-! ### The macro -/

theorem expand_confirmedName (explanation : Bool) (domain : String) :
    expand explanation domain "%{p}" = confirmedName explanation domain := by
  have read : readTokens explanation "%{p}".toList = .ok [.expansion ⟨.confirmedName, none, false, "", false⟩] := by
    cases explanation <;> rfl
  rw [expand_plain read]
  rfl

theorem preferredName_eq_or_mem (domain : String) (names : List String) :
    preferredName domain names = noConfirmedName ∨ preferredName domain names ∈ names := by
  unfold preferredName
  dsimp only
  split
  · rename_i held
    exact .inr (List.contains_iff_mem.mp held)
  · cases hf : names.find? (Domain.isBelow (Domain.withoutDots (lower domain))) with
    | some name => exact .inr (List.mem_of_find?_eq_some hf)
    | none =>
      cases names with
      | nil => exact .inl rfl
      | cons name rest => exact .inr List.mem_cons_self

/-- The preferred name lies within a domain if any of the names does; the name that stands for none never does. -/
theorem preferredName_within_iff {domain : String} (valid : Domain.isValid domain = true) (names : List String) :
    (preferredName domain names = Domain.withoutDots (lower domain) ∨
        Domain.isBelow (Domain.withoutDots (lower domain)) (preferredName domain names) = true) ↔
      ∃ name ∈ names, name = Domain.withoutDots (lower domain) ∨
        Domain.isBelow (Domain.withoutDots (lower domain)) name = true := by
  constructor
  · intro within
    rcases preferredName_eq_or_mem domain names with absent | mem
    · rw [absent] at within
      have dot : '.' ∈ noConfirmedName.toList := within.elim
        (fun own => own ▸ Domain.dot_mem_withoutDots_lower valid) Domain.isBelow_dot
      exact absurd dot (by decide)
    · exact ⟨_, mem, within⟩
  · rintro ⟨name, mem, own | below⟩
    · subst own
      unfold preferredName
      rw [if_pos (List.contains_iff_mem.mpr mem)]
      exact .inl rfl
    · unfold preferredName
      dsimp only
      split
      · exact .inl rfl
      · obtain ⟨found, hf⟩ := Option.isSome_iff_exists.mp (List.find?_isSome.mpr ⟨name, mem, below⟩)
        rw [hf]
        exact .inr (List.find?_some hf)

section
variable {answer : Question → σ → Answer × σ} {context : Context} {I : σ → Prop} {reply : Question → Answer} {w w' : World σ}

theorem exec_countLookup_below (below : w.counters.lookups < context.receiver.limits.lookups) :
    exec answer context countLookup w = (.ok (), w.lookedUp) := by
  rw [exec_countLookup, if_neg]
  exact Int.not_lt.mpr below

/-- Below the ceiling, the name that the macro stands for is chosen among the confirmed names. -/
theorem exec_confirmedName (h : Steady answer I reply) (hp : Proper reply) (hw : I w.state) (explanation : Bool)
    (below : w.counters.lookups < context.receiver.limits.lookups) (domain : String) :
    ∃ w', exec answer context (confirmedName explanation domain) w =
      (.ok (preferredName domain (confirmedOf reply context)), w') := by
  have chosen : ∀ w₁ : World σ, I w₁.state → ∃ w', exec answer context (confirmedName true domain) w₁ =
      (.ok (preferredName domain (confirmedOf reply context)), w') := by
    intro w₁ hw₁
    obtain ⟨r, s, names, found⟩ := exec_clientNames context h hp hw₁
    refine ⟨⟨w₁.counters, s⟩, ?_⟩
    show exec answer context (clientNames >>= _) w₁ = _
    rw [exec_bind_of_ok names, ← found]
    cases r <;> rfl
  cases explanation with
  | true => exact chosen w hw
  | false =>
    obtain ⟨w', found⟩ := chosen w.lookedUp hw
    refine ⟨w', ?_⟩
    show exec answer context (countLookup >>= fun _ => confirmedName true domain) w = _
    rw [exec_bind_of_ok (exec_countLookup_below below), found]

end

theorem matchesClient_ptr {policy : String → Evaluation Verdict} {d : Directive} (hd : d.mechanism = .ptr) (domain : String) :
    matchesClient policy d domain = countedTarget domain d.value >>= fun target =>
      anyConfirmedBelow (Domain.withoutDots (lower target)) := by
  unfold matchesClient countedTarget
  rw [hd, bind_assoc]
  exact matchesConfirmedName_eq d domain

/-! ### Fixed answers -/

/-- If answers are fixed, and those to questions for addresses hold nothing else, a pointer mechanism that comes to a result
matches just when a confirmed name of the client, in lower case, is the target in lower case without the dots at its end, or
ends in a dot and this target. It comes to a result whenever it has a target: neither the lookup of the reverse name nor that
of a host name throws. -/
theorem pointer_matches_iff {client : Client} (hr : client.resolver.Fixed) (ha : client.resolver.GivesAddresses)
    (ht : ∃ settings, client.options.settings = .ok settings) (context : Context) (policy : String → Evaluation Verdict)
    {d : Directive} (hd : d.mechanism = .ptr) (domain : String) {w : World ClientState}
    (hw : w.state.cache.Coherent client.resolver) :
    (∀ matched w', exec client.answers context (matchesClient policy d domain) w = (.ok matched, w') →
      ∃ target w₁, exec client.answers context (countedTarget domain d.value) w = (.ok target, w₁) ∧
        (matched = true ↔ ∃ name, Confirms client.reply context.receiver.limits.pointers context.address name ∧
          (lower name = Domain.withoutDots (lower target) ∨
            Domain.isBelow (Domain.withoutDots (lower target)) (lower name) = true))) ∧
    ∀ target w₁, exec client.answers context (countedTarget domain d.value) w = (.ok target, w₁) →
      ∃ matched w', exec client.answers context (matchesClient policy d domain) w = (.ok matched, w') := by
  have steady := client.steady hr ht
  have tested {target : String} {w₁ : World ClientState}
      (named : exec client.answers context (countedTarget domain d.value) w = (.ok target, w₁)) :=
    exec_anyConfirmedBelow context steady (Client.proper_reply ha) (steady.countedTarget_kept hw named)
      (Domain.withoutDots (lower target))
  rw [matchesClient_ptr hd]
  refine ⟨fun matched w' he => ?_, fun target w₁ named => ?_⟩
  · obtain ⟨target, w₁, named, he⟩ := exec_bind_ok_iff.mp he
    obtain ⟨_, _, ran, iff⟩ := tested named
    cases ran.symm.trans he
    exact ⟨target, w₁, named, iff.trans exists_mem_confirmedOf_iff⟩
  · obtain ⟨matched, w', ran, -⟩ := tested named
    exact ⟨matched, w', (exec_bind_of_ok named).trans ran⟩

/-- A zone whose client has two host names under its reverse name: one cannot be asked for, the other leads back. -/
def twoNamesZone : Zone :=
  [("5.2.0.192.in-addr.arpa", [("PTR", .fixed (.ok [.text "mail.example.org.", .text "Mail.Example.com."]))]),
   ("mail.example.org", [("A", .fixed (.error .noNameservers))]),
   ("mail.example.com", [("A", .fixed (.ok [.text "192.0.2.9", .text "192.0.2.5"]))])]

def twoNamesContext : Context := ⟨{ clock := .whole 0 }, .v4 0xC0000205, "user", "example.com", ""⟩

theorem twoNamesZone_steady : (Client.ofZone twoNamesZone).resolver.Fixed ∧ (Client.ofZone twoNamesZone).resolver.GivesAddresses :=
  ⟨fixed_resolver (by decide), givesAddresses_resolver (by decide)⟩

/-- The name that cannot be asked for does not hide the other. -/
theorem pointer_matches_twoNamesZone :
    ∃ name, Confirms (Client.ofZone twoNamesZone).reply 10 twoNamesContext.address name ∧
      (lower name = "example.com" ∨ Domain.isBelow "example.com" (lower name) = true) := by
  obtain ⟨target, w₁, named, iff⟩ := (pointer_matches_iff twoNamesZone_steady.1 twoNamesZone_steady.2 ⟨_, rfl⟩
    twoNamesContext (fun _ => pure ⟨.neutral, ""⟩) (d := ⟨.plus, .ptr, .absent, "", "ptr"⟩) rfl "example.com" (w := .fresh .unasked) (Cache.coherent_of_empty rfl)).1 true _
    (Prod.ext (show (exec (Client.ofZone twoNamesZone).answers twoNamesContext (matchesClient (fun _ => pure ⟨.neutral, ""⟩)
      ⟨.plus, .ptr, .absent, "", "ptr"⟩ "example.com") (.fresh .unasked)).1 = .ok true by decide +kernel) rfl)
  have own : (exec (Client.ofZone twoNamesZone).answers twoNamesContext (countedTarget "example.com" "")
    (.fresh .unasked)).1 = .ok "example.com" := by decide +kernel
  rw [named] at own
  cases own
  have lowered : Domain.withoutDots (lower "example.com") = "example.com" := by decide
  rw [lowered] at iff
  exact iff.mp rfl

/-- A pointer mechanism without a value and the macro for the name of the client agree: below the ceiling for lookups, the
mechanism matches just when the macro stands for the domain itself, in lower case without the dots at its end, or for a name
below it. The macro stands for a confirmed name in lower case, if not for none. -/
theorem pointer_matches_iff_macro {client : Client} (hr : client.resolver.Fixed) (ha : client.resolver.GivesAddresses)
    (ht : ∃ settings, client.options.settings = .ok settings) (context : Context) (policy : String → Evaluation Verdict)
    {d : Directive} (hd : d.mechanism = .ptr) (bare : d.value = "") {domain : String} (valid : Domain.isValid domain = true)
    (explanation : Bool) {w v : World ClientState} (hw : w.state.cache.Coherent client.resolver)
    (hv : v.state.cache.Coherent client.resolver) (below : w.counters.lookups < context.receiver.limits.lookups)
    (below' : v.counters.lookups < context.receiver.limits.lookups) :
    ∃ matched w' name v', exec client.answers context (matchesClient policy d domain) w = (.ok matched, w') ∧
      exec client.answers context (expand explanation domain "%{p}") v = (.ok name, v') ∧
      (matched = true ↔ name = Domain.withoutDots (lower domain) ∨
        Domain.isBelow (Domain.withoutDots (lower domain)) name = true) ∧
      (name = noConfirmedName ∨
        ∃ given, Confirms client.reply context.receiver.limits.pointers context.address given ∧ name = lower given) := by
  have steady := client.steady hr ht
  have proper := Client.proper_reply ha
  have target : exec client.answers context (countedTarget domain d.value) w = (.ok domain, w.lookedUp) := by
    unfold countedTarget targetName expandDomainSpec
    rw [exec_bind_of_ok (exec_countLookup_below below), if_pos bare, pure_bind, if_pos valid]
    rfl
  obtain ⟨matched, w', ran, iff⟩ := exec_anyConfirmedBelow context steady proper (w := w.lookedUp) hw
    (Domain.withoutDots (lower domain))
  obtain ⟨v', chosen⟩ := exec_confirmedName steady proper hv explanation below' domain
  rw [expand_confirmedName, matchesClient_ptr hd, exec_bind_of_ok target]
  refine ⟨matched, w', _, v', ran, chosen, iff.trans (preferredName_within_iff valid _).symm, ?_⟩
  refine (preferredName_eq_or_mem domain _).imp_right fun mem => ?_
  obtain ⟨given, confirms, same⟩ := mem_confirmedOf_iff.mp mem
  exact ⟨given, confirms, same.symm⟩

/-- With one lookup left, the macro stands for the confirmed name below the domain, and the mechanism matches. -/
theorem pointer_macro_twoNamesZone :
    (exec (Client.ofZone twoNamesZone).answers twoNamesContext (expand false "example.com" "%{p}") (.fresh .unasked)).1 =
        .ok "mail.example.com" ∧
      (exec (Client.ofZone twoNamesZone).answers twoNamesContext (matchesClient (fun _ => pure ⟨.neutral, ""⟩)
        ⟨.plus, .ptr, .absent, "", "ptr"⟩ "example.com") ⟨⟨9, 0⟩, .unasked⟩).1 = .ok true := by
  obtain ⟨matched, w', name, v', ran, stands, iff, -⟩ := pointer_matches_iff_macro twoNamesZone_steady.1
    twoNamesZone_steady.2 ⟨_, rfl⟩ twoNamesContext (fun _ => pure ⟨.neutral, ""⟩) (d := ⟨.plus, .ptr, .absent, "", "ptr"⟩)
    rfl rfl (show Domain.isValid "example.com" = true by decide) false
    (w := ⟨⟨9, 0⟩, .unasked⟩) (v := .fresh .unasked) (Cache.coherent_of_empty rfl) (Cache.coherent_of_empty rfl)
    (by decide) (by decide)
  have chosen : (exec (Client.ofZone twoNamesZone).answers twoNamesContext (expand false "example.com" "%{p}")
    (.fresh .unasked)).1 = .ok "mail.example.com" := by decide +kernel
  refine ⟨chosen, ?_⟩
  rw [stands] at chosen
  cases chosen
  rw [ran, iff.mpr (by decide +kernel)]

end Evaluation

end SenderPolicy
