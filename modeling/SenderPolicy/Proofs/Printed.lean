import SenderPolicy.Error
import SenderPolicy.Proofs.AddressText

/-! What texts are made of. Numbers, and addresses where macros and questions hold them, are written in printed characters of
ASCII, and whatever messages quote or show of other texts has printed characters only. -/

namespace SenderPolicy

open Dns Text

namespace Text

/-- All characters of the text have a property. -/
def MadeOf (p : Char → Prop) (s : String) : Prop := ∀ c ∈ s.toList, p c

instance (p : Char → Prop) [DecidablePred p] (s : String) : Decidable (MadeOf p s) := List.decidableBAll p s.toList

/-- A printed character of ASCII. -/
def IsPlain (c : Char) : Prop := 0x20 ≤ c.toNat ∧ c.toNat < 0x7F

instance (c : Char) : Decidable (IsPlain c) := inferInstanceAs (Decidable (_ ∧ _))

section
variable {p q : Char → Prop} {s t : String}

theorem MadeOf.mono (h : MadeOf p s) (hpq : ∀ c, p c → q c) : MadeOf q s := fun c hc => hpq c (h c hc)

@[simp] theorem madeOf_append : MadeOf p (s ++ t) ↔ MadeOf p s ∧ MadeOf p t := by
  simp only [MadeOf, String.toList_append, List.mem_append, or_imp, forall_and]

@[simp] theorem madeOf_ofList {l : List Char} : MadeOf p (String.ofList l) ↔ ∀ c ∈ l, p c := by
  simp only [MadeOf, String.toList_ofList]

@[simp] theorem madeOf_toString : MadeOf p (toString s) ↔ MadeOf p s := Iff.rfl

theorem isPrintable_of_plain {c : Char} (h : IsPlain c) : isPrintable c = true := by
  unfold isPrintable
  rw [if_pos h.2, decide_eq_true_eq]
  exact h.1

end

theorem mem_joined {separator : List Char} {c : Char} : ∀ {parts : List (List Char)}, c ∈ joined separator parts →
    c ∈ separator ∨ ∃ part ∈ parts, c ∈ part
  | [part], h => .inr ⟨part, List.mem_cons_self, h⟩
  | part :: next :: rest, h => by
    rcases List.mem_append.mp h with h | h
    · rcases List.mem_append.mp h with h | h
      · exact .inr ⟨part, List.mem_cons_self, h⟩
      · exact .inl h
    · exact (mem_joined h).imp_right fun ⟨part, hp, hc⟩ => ⟨part, List.mem_cons_of_mem _ hp, hc⟩

/-! ### Numbers -/

theorem digitChar_plain : ∀ d < 16, IsPlain (Nat.digitChar d) := by decide

theorem plain_nat (n : Nat) : MadeOf IsPlain (toString n) := fun c hc => by
  rw [show toString n = n.repr from rfl, Nat.toList_repr] at hc
  obtain ⟨d, hd, rfl⟩ := exists_digit_of_mem_toDigits (by decide) c hc
  exact digitChar_plain d (by omega)

theorem plain_int : ∀ n : Int, MadeOf IsPlain (toString n)
  | .ofNat n => plain_nat n
  | .negSucc n => madeOf_append.mpr ⟨by decide, plain_nat (n + 1)⟩

theorem exists_digit_of_mem_hexadecimal {width n : Nat} {c : Char} (h : c ∈ hexadecimal width n) :
    ∃ d < 16, c = Nat.digitChar d := by
  rcases List.mem_append.mp h with h | h
  · exact ⟨0, by decide, List.eq_of_mem_replicate h⟩
  · exact exists_digit_of_mem_toDigits (by decide) c h

theorem plain_hexadecimal {width n : Nat} {c : Char} (h : c ∈ hexadecimal width n) : IsPlain c := by
  obtain ⟨d, hd, rfl⟩ := exists_digit_of_mem_hexadecimal h
  exact digitChar_plain d hd

/-! ### Quoted and shown texts -/

theorem printable_quotedChar {quote c : Char} (hq : isPrintable quote = true) :
    ∀ d ∈ quotedChar quote c, isPrintable d = true := by
  -- an escape is a backslash, a letter and perhaps some hexadecimal digits
  have escape : ∀ {letter : Char} {width : Nat}, isPrintable letter = true →
      ∀ d ∈ ['\\', letter] ++ hexadecimal width c.toNat, isPrintable d = true := by
    intro letter width hl d hd
    rcases List.mem_append.mp hd with hd | hd
    · rcases List.mem_pair.mp hd with rfl | rfl
      · decide
      · exact hl
    · exact isPrintable_of_plain (plain_hexadecimal hd)
  have listed : ∀ {l : List Char}, l.all isPrintable = true → ∀ d ∈ l, isPrintable d = true := List.all_eq_true.mp
  unfold quotedChar
  dsimp only
  split
  · rename_i h
    simp only [List.mem_cons, List.not_mem_nil, or_false, forall_eq_or_imp, forall_eq]
    refine ⟨by decide, ?_⟩
    rcases Bool.or_eq_true _ _ ▸ h with h | h <;> rw [decide_eq_true_eq.mp h]
    · exact hq
    · decide
  · split
    · exact listed (by decide)
    · split
      · exact listed (by decide)
      · split
        · exact listed (by decide)
        · split
          · rename_i h
            simpa using h
          · split
            · exact escape (by decide)
            · split
              · exact escape (by decide)
              · exact escape (by decide)

theorem printed_quoted (s : String) : MadeOf (isPrintable · = true) (quoted s) := by
  have quotes : ∀ quote ∈ ['"', '\x27'], ∀ c ∈ quote :: s.toList.flatMap (quotedChar quote) ++ [quote], isPrintable c = true := by
    intro quote hq c hc
    have printable : isPrintable quote = true := by
      rcases List.mem_pair.mp hq with rfl | rfl <;> decide
    rcases List.mem_append.mp hc with hc | hc
    · rcases List.mem_cons.mp hc with rfl | hc
      · exact printable
      · obtain ⟨d, -, hc⟩ := List.mem_flatMap.mp hc
        exact printable_quotedChar printable c hc
    · rwa [List.mem_singleton.mp hc]
  unfold quoted
  dsimp only
  rw [madeOf_ofList]
  split
  · exact quotes _ List.mem_cons_self
  · exact quotes _ (List.mem_cons_of_mem _ List.mem_cons_self)

end Text

theorem Domain.printed_shown (d : String) : MadeOf (isPrintable · = true) (shown d) := by
  unfold shown
  dsimp only
  split
  · decide
  · exact madeOf_ofList.mpr fun c hc => (List.mem_filter.mp hc).2

theorem Text.NumeralError.printed_message (e : NumeralError) : MadeOf (isPrintable · = true) e.message := by
  have number (n : Nat) : MadeOf (isPrintable · = true) (toString n) := (plain_nat n).mono fun _ => isPrintable_of_plain
  have start (text : String) : ∀ c ∈ (quoted text).toList.take 200, isPrintable c = true := fun c hc =>
    printed_quoted text c (List.mem_of_mem_take hc)
  cases e with
  | notWhole text =>
    dsimp only [message]
    simp only [madeOf_append, madeOf_toString, madeOf_ofList]
    exact ⟨by decide, start text⟩
  | notDecimal text =>
    dsimp only [message]
    simp only [madeOf_append, madeOf_toString]
    exact ⟨by decide, printed_quoted text⟩
  | tooManyDigits count =>
    dsimp only [message]
    simp only [madeOf_append, madeOf_toString, number, and_true]
    decide

theorem Seconds.plain_text (t : Seconds) : MadeOf IsPlain t.text := by
  unfold Seconds.text
  dsimp only
  refine madeOf_append.mpr ⟨madeOf_append.mpr ⟨madeOf_append.mpr ⟨?_, plain_nat _⟩, by decide⟩, ?_⟩
  · split <;> decide
  · exact madeOf_ofList.mpr fun c hc => plain_nat _ c (List.mem_of_mem_drop hc)

/-! ### Addresses -/

namespace Address

theorem plain_joined {separator : List Char} {parts : List (List Char)} (hs : ∀ c ∈ separator, IsPlain c)
    (hp : ∀ part ∈ parts, ∀ c ∈ part, IsPlain c) : ∀ c ∈ joined separator parts, IsPlain c := fun c hc =>
  (mem_joined hc).elim (hs c) fun ⟨part, hm, hc⟩ => hp part hm c hc

theorem plain_dotted (bits : BitVec 32) : ∀ c ∈ dotted bits, IsPlain c :=
  plain_joined (List.forall_mem_singleton.mpr (by decide)) fun part hp => by
    obtain ⟨octet, -, rfl⟩ := List.mem_map.mp hp
    exact plain_nat octet

theorem plain_compressed (bits : BitVec 128) : ∀ c ∈ compressed bits, IsPlain c := by
  have groups : ∀ part ∈ (groups bits).map (hexadecimal 1), ∀ c ∈ part, IsPlain c := fun part hp c hc => by
    obtain ⟨group, -, rfl⟩ := List.mem_map.mp hp
    exact plain_hexadecimal hc
  have colon : ∀ c ∈ [':'], IsPlain c := List.forall_mem_singleton.mpr (by decide)
  have colons : ∀ c ∈ [':', ':'], IsPlain c := List.forall_mem_cons.mpr ⟨by decide, colon⟩
  unfold compressed
  dsimp only
  split
  · exact plain_joined colon groups
  · intro c hc
    rcases List.mem_append.mp hc with hc | hc
    · rcases List.mem_append.mp hc with hc | hc
      · exact plain_joined colon (fun part hp => groups part (List.mem_of_mem_take hp)) c hc
      · exact colons c hc
    · exact plain_joined colon (fun part hp => groups part (List.mem_of_mem_drop hp)) c hc

theorem plain_nibbles (bits : BitVec 128) : ∀ c ∈ nibbles bits, IsPlain c := fun c hc => by
  obtain ⟨i, -, rfl⟩ := List.mem_map.mp hc
  exact digitChar_plain _ (Nat.mod_lt _ (by decide))

theorem plain_dottedNibbles {digits : List Char} (h : ∀ c ∈ digits, IsPlain c) :
    ∀ c ∈ joined ['.'] (digits.map ([·])), IsPlain c :=
  plain_joined (List.forall_mem_singleton.mpr (by decide)) fun part hp c hc => by
    obtain ⟨digit, hd, rfl⟩ := List.mem_map.mp hp
    rw [List.mem_singleton.mp hc]
    exact h digit hd

/-- Macros write addresses in plain characters. -/
theorem plain_macroText {address : Address} {text : String} (h : address.macroText = .ok text) : MadeOf IsPlain text := by
  cases address with
  | v4 bits =>
    cases h
    exact madeOf_ofList.mpr (plain_dotted bits)
  | v6 bits scope =>
    unfold macroText at h
    dsimp only at h
    cases hr : readGroups (Address.text (.v6 bits scope)).toList with
    | error e =>
      rw [hr] at h
      cases h
    | ok bits =>
      rw [hr] at h
      cases h
      exact madeOf_ofList.mpr (plain_dottedNibbles (plain_nibbles bits))

end Address

/-! ### Messages -/

section
variable {p : Char → Prop}

/-- The text that is shown and the mark are made of characters with a property. -/
def Marked.SpeltIn (p : Char → Prop) (m : Marked) : Prop := MadeOf p m.marker ∧ MadeOf p m.text

/-- The texts that the error holds are made of characters with a property. -/
def SyntaxError.SpeltIn (p : Char → Prop) : SyntaxError → Prop
  | notMacro text | zeroDigits text => MadeOf p text
  | macroString domain m => MadeOf p domain ∧ m.SpeltIn p
  | cidr raw | cidr4 raw | cidr6 raw => MadeOf p raw
  | domainSpec domain spec => MadeOf p domain ∧ MadeOf p spec
  | macroInNetwork domain mechanism value => MadeOf p domain ∧ MadeOf p mechanism ∧ MadeOf p value
  | network value mechanism => MadeOf p value ∧ MadeOf p mechanism
  | record domain _ m => MadeOf p domain ∧ m.SpeltIn p
  | term domain text m => MadeOf p domain ∧ MadeOf p text ∧ m.SpeltIn p
  | severalRedirects domain | severalExplanations domain => MadeOf p domain

@[inherit_doc SyntaxError.SpeltIn]
def NoPolicy.SpeltIn (p : Char → Prop) : NoPolicy → Prop
  | domainMissing | recordMissing | invalidDomain _ => True
  | lookup cause => MadeOf p cause.message

@[inherit_doc SyntaxError.SpeltIn]
def PolicyError.SpeltIn (p : Char → Prop) : PolicyError → Prop
  | malformed cause => cause.SpeltIn p
  | noPolicy cause => cause.SpeltIn p
  | severalRecords domain => MadeOf p domain
  | temporary name cause => MadeOf p name ∧ MadeOf p cause.message
  | network value mechanism => MadeOf p value ∧ MadeOf p mechanism
  | missingPolicy _ target cause => MadeOf p target ∧ cause.SpeltIn p
  | tooManyMailHosts domain _ _ => MadeOf p domain
  | tooDeep _ domain => MadeOf p domain
  | invalidTarget _ | tooManyLookups _ _ | tooManyVoidLookups _ _ => True

variable (printed : ∀ c, isPrintable c = true → p c)
include printed

theorem madeOf_int (n : Int) : MadeOf p (toString n) := (plain_int n).mono fun c hc => printed c (isPrintable_of_plain hc)

theorem madeOf_shown {m : Marked} (h : m.SpeltIn p) : MadeOf p m.place ∧ MadeOf p m.shown := by
  have number : MadeOf p (toString m.position) := madeOf_int printed m.position
  constructor
  · dsimp only [Marked.place]
    simp only [madeOf_append, madeOf_toString, number, h.1, and_true]
    and_intros <;> exact .mono (by decide) printed
  · unfold Marked.shown insertedAt
    rw [madeOf_ofList]
    intro c hc
    rcases List.mem_append.mp hc with hc | hc
    · rcases List.mem_append.mp hc with hc | hc
      · exact h.2 c (List.mem_of_mem_take hc)
      · exact h.1 c hc
    · exact h.2 c (List.mem_of_mem_drop hc)

/-- Messages are made of the texts that errors hold and of printed characters. -/
theorem SyntaxError.madeOf_message {e : SyntaxError} (h : e.SpeltIn p) : MadeOf p e.message := by
  have shown : ∀ m : Marked, m.SpeltIn p → MadeOf p m.place ∧ MadeOf p m.shown := fun _ => madeOf_shown printed
  have expected : ∀ e : Expectation, MadeOf p e.text := fun e => .mono (by cases e <;> decide) printed
  cases e with
  | macroString domain m =>
    dsimp only [message]
    simp only [madeOf_append, madeOf_toString, h.1, shown m h.2, true_and, and_true]
    and_intros <;> exact .mono (by decide) printed
  | record domain cause m =>
    dsimp only [message]
    simp only [madeOf_append, madeOf_toString, h.1, expected cause, shown m h.2, true_and, and_true]
    and_intros <;> exact .mono (by decide) printed
  | term domain text m =>
    dsimp only [message]
    simp only [madeOf_append, madeOf_toString, h.1, h.2.1, shown m h.2.2, true_and, and_true]
    and_intros <;> exact .mono (by decide) printed
  | _ =>
    dsimp only [SpeltIn] at h
    dsimp only [message]
    simp only [madeOf_append, madeOf_toString, h, true_and, and_true]
    and_intros <;> exact .mono (by decide) printed

theorem NoPolicy.madeOf_message {e : NoPolicy} (h : e.SpeltIn p) : MadeOf p e.message := by
  cases e with
  | lookup cause => exact h
  | invalidDomain domain =>
    dsimp only [message]
    simp only [madeOf_append, madeOf_toString]
    exact ⟨.mono (by decide) printed, (Domain.printed_shown domain).mono printed⟩
  | _ => exact .mono (by decide) printed

@[inherit_doc SyntaxError.madeOf_message]
theorem PolicyError.madeOf_message {e : PolicyError} (h : e.SpeltIn p) : MadeOf p e.message := by
  have number : ∀ n : Int, MadeOf p (toString n) := madeOf_int printed
  cases e with
  | malformed cause => exact SyntaxError.madeOf_message printed h
  | noPolicy cause => exact NoPolicy.madeOf_message printed h
  | network value mechanism =>
    have network : (SyntaxError.network value mechanism).SpeltIn p := h
    exact SyntaxError.madeOf_message printed network
  | missingPolicy reference target cause =>
    have missing := NoPolicy.madeOf_message printed h.2
    have start : MadeOf p reference.text := .mono (by cases reference <;> decide) printed
    dsimp only [message]
    simp only [madeOf_append, madeOf_toString, h.1, start, missing, true_and, and_true]
    exact .mono (by decide) printed
  | invalidTarget name =>
    dsimp only [message]
    simp only [madeOf_append, madeOf_toString]
    exact ⟨.mono (by decide) printed, (Domain.printed_shown name).mono printed⟩
  | _ =>
    dsimp only [SpeltIn] at h
    dsimp only [message]
    simp only [madeOf_append, madeOf_toString, number, h, true_and, and_true]
    and_intros <;> exact .mono (by decide +kernel) printed

end

end SenderPolicy
