import Mathlib.Data.List.Forall2
import SenderPolicy.Evaluation.Basic
import SenderPolicy.Macro.Transform
import SenderPolicy.Proofs.LetterCase
import SenderPolicy.Proofs.ReadTexts

/-! Texts of two checks side by side. A pairing says which characters of a name in one check may stand for which in the other,
which letters the macros outside explanations use, and whether explanations have to be the same. What checks do with texts
keeps them paired: cutting, joining, encoding and shortening, and what is read of a record or reported of it. -/

namespace SenderPolicy

open Dns Text

variable {α β γ δ : Type}

/-! ### Cutting two texts -/

namespace Text

variable {R : Char → Char → Prop} {p q : Char → Bool} {s t : List Char}

theorem forall₂_pieces (h : ∀ c d, R c d → p c = q d) (hst : List.Forall₂ R s t) :
    List.Forall₂ (List.Forall₂ R) (pieces p s) (pieces q t) := by
  induction hst with
  | nil => exact .cons .nil .nil
  | @cons c d s t hcd _ ih =>
    rw [pieces, pieces, ← h c d hcd]
    split
    · exact .cons .nil ih
    · generalize pieces p s = parts at ih
      generalize pieces q t = parts' at ih
      cases ih with
      | nil => exact .nil
      | cons first rest => exact .cons (.cons hcd first) rest

theorem forall₂_joined {separator : List Char} (hs : List.Forall₂ R separator separator) {parts parts' : List (List Char)}
    (h : List.Forall₂ (List.Forall₂ R) parts parts') : List.Forall₂ R (joined separator parts) (joined separator parts') := by
  induction h with
  | nil => exact .nil
  | cons first rest ih =>
    cases rest with
    | nil => exact first
    | cons second rest => exact List.rel_append (List.rel_append first hs) ih

variable {c : Char}

theorem contains_of_forall₂ (h : ∀ d e, R d e → (d = c ↔ e = c)) (hst : List.Forall₂ R s t) : s.contains c = t.contains c := by
  induction hst with
  | nil => rfl
  | @cons d e s t hde _ ih =>
    rw [List.contains_cons, List.contains_cons, ih]
    congr 1
    rw [Bool.eq_iff_iff, beq_iff_eq, beq_iff_eq, eq_comm, h d e hde, eq_comm]

/-- Both texts are cut in two, or neither is. -/
def CutAlike (R : Char → Char → Prop) : Option (List Char × List Char) → Option (List Char × List Char) → Prop
  | none, none => True
  | some cut, some cut' => List.Forall₂ R cut.1 cut'.1 ∧ List.Forall₂ R cut.2 cut'.2
  | _, _ => False

theorem cutFirst_of_forall₂ (h : ∀ d e, R d e → (d = c ↔ e = c)) (hst : List.Forall₂ R s t) :
    CutAlike R (cutFirst c s) (cutFirst c t) := by
  induction hst with
  | nil => trivial
  | @cons d e s t hde hst ih =>
    rw [cutFirst, cutFirst]
    by_cases hd : d = c
    · rw [if_pos hd, if_pos ((h d e hde).mp hd)]
      exact ⟨.nil, hst⟩
    · rw [if_neg hd, if_neg (mt (h d e hde).mpr hd)]
      cases hs : cutFirst c s <;> cases ht : cutFirst c t <;> rw [hs, ht] at ih
      · trivial
      · exact ih
      · exact ih
      · exact ⟨.cons hde ih.1, ih.2⟩

theorem cutLast_of_forall₂ (h : ∀ d e, R d e → (d = c ↔ e = c)) (hst : List.Forall₂ R s t) :
    CutAlike R (cutLast c s) (cutLast c t) := by
  have cut := cutFirst_of_forall₂ h (List.rel_reverse hst)
  unfold cutLast
  cases hs : cutFirst c s.reverse <;> cases ht : cutFirst c t.reverse <;> rw [hs, ht] at cut
  · trivial
  · exact cut
  · exact cut
  · exact ⟨List.rel_reverse cut.2, List.rel_reverse cut.1⟩

theorem cutTo_of_forall₂ (h : ∀ d e, R d e → (d = '.' ↔ e = '.')) (limit : Int) (hst : List.Forall₂ R s t) :
    List.Forall₂ R (Domain.cutTo limit s) (Domain.cutTo limit t) := by
  induction hst with
  | nil => exact .nil
  | @cons d e s t hde hst ih =>
    have cuts : (d = '.' && ((s.length : Int) ≤ limit || !s.contains '.')) =
        (e = '.' && ((t.length : Int) ≤ limit || !t.contains '.')) := by
      rw [hst.length_eq, contains_of_forall₂ h hst, decide_eq_decide.mpr (h d e hde)]
    rw [Domain.cutTo, Domain.cutTo, cuts]
    split
    · exact hst
    · exact ih

theorem forall₂_lastParts {parts parts' : List (List Char)} (count : Int) (h : List.Forall₂ (List.Forall₂ R) parts parts') :
    List.Forall₂ (List.Forall₂ R) (Macro.lastParts count parts) (Macro.lastParts count parts') := by
  unfold Macro.lastParts
  rw [h.length_eq]
  split
  · split <;> exact List.forall₂_drop _ h
  · exact h

end Text

/-! ### Pairings -/

/-- What two checks have in common. -/
structure Pairing where
  /-- Which characters of a name in one check may stand for which in the other. -/
  alike : Char → Char → Prop
  /-- The letters of macros outside explanations. -/
  letter : Letter → Prop
  /-- Whether explanations are the same. -/
  explained : Prop

namespace Pairing

section
variable (P : Pairing)

/-- The text may stand in both checks. -/
def Spelt (s : String) : Prop := MadeOf (fun c => P.alike c c) s

/-- Texts of which one may stand for the other in names. -/
def Names (s s' : String) : Prop := List.Forall₂ P.alike s.toList s'.toList

/-- Texts of which one may stand for the other in explanations. -/
def Prose (s s' : String) : Prop := P.explained → s = s' ∧ P.Spelt s

/-- Texts of which one may stand for the other in the explanation of a failure or elsewhere. -/
def Texts (explanation : Bool) (s s' : String) : Prop := if explanation then P.Prose s s' else P.Names s s'

/-- What checks do with paired names makes no difference: they are the same up to letter case, in lower case and in
questions, and if explanations are the same, so are names. -/
structure Lawful : Prop where
  plain : ∀ c, IsPlain c → P.alike c c
  left : ∀ c d, P.alike c d → P.alike c c
  recased : ∀ c d, P.alike c d → c.toLower = d.toLower
  lower : ∀ s s', P.Names s s' → lower s = lower s'
  normalized : ∀ s s', P.Names s s' → Domain.normalized s = Domain.normalized s'
  spelt_lower : ∀ s, P.Spelt s → P.Spelt (Text.lower s)
  same : P.explained → ∀ c d, P.alike c d → c = d
  printed : P.explained → ∀ c, isPrintable c = true → P.alike c c
  spelt_normalized : P.explained → ∀ s, P.Spelt s → P.Spelt (Domain.normalized s)

end

variable {P : Pairing} {s s' t t' : String} {explanation : Bool}

theorem Names.refl (h : P.Spelt s) : P.Names s s := List.forall₂_same.mpr h

theorem Names.append (h : P.Names s s') (ht : P.Names t t') :
    P.Names (s ++ t) (s' ++ t') := by
  unfold Names
  rw [String.toList_append, String.toList_append]
  exact List.rel_append h ht

theorem Names.eq_empty_iff (h : P.Names s s') : s = "" ↔ s' = "" := by
  rw [← String.toList_eq_nil_iff, ← String.toList_eq_nil_iff, ← List.length_eq_zero_iff, ← List.length_eq_zero_iff,
    List.Forall₂.length_eq h]

theorem names_ofList {l l' : List Char} (h : List.Forall₂ P.alike l l') : P.Names (String.ofList l) (String.ofList l') := by
  unfold Names
  rwa [String.toList_ofList, String.toList_ofList]

theorem Prose.append (h : P.Prose s s') (ht : P.Prose t t') : P.Prose (s ++ t) (s' ++ t') := fun hx => by
  obtain ⟨rfl, spelt⟩ := h hx
  obtain ⟨rfl, spelt'⟩ := ht hx
  exact ⟨rfl, madeOf_append.mpr ⟨spelt, spelt'⟩⟩

theorem Prose.refl (h : P.explained → P.Spelt s) : P.Prose s s := fun hx => ⟨rfl, h hx⟩

theorem Texts.append (h : P.Texts explanation s s') (ht : P.Texts explanation t t') :
    P.Texts explanation (s ++ t) (s' ++ t') := by
  cases explanation with
  | false => exact h.append ht
  | true => exact h.append ht

namespace Lawful

variable (hP : P.Lawful)
include hP

/-- A character that is no letter stands for itself only. -/
theorem eq_iff {c d e : Char} (h : P.alike c d) (he : e.isAlpha = false) : c = e ↔ d = e := by
  rw [← toLower_eq_iff he, hP.recased c d h, toLower_eq_iff he]

theorem spelt_of_plain (h : MadeOf IsPlain s) : P.Spelt s := h.mono hP.plain

theorem spelt_of_printed (hx : P.explained) (h : MadeOf (isPrintable · = true) s) : P.Spelt s := h.mono (hP.printed hx)

theorem names_plain (h : MadeOf IsPlain s) : P.Names s s := .refl (hP.spelt_of_plain h)

theorem prose_printed (h : MadeOf (isPrintable · = true) s) : P.Prose s s := fun hx => ⟨rfl, hP.spelt_of_printed hx h⟩

theorem spelt_of_names (h : P.Names s s') : P.Spelt s := by
  intro c hc
  obtain ⟨i, hi, rfl⟩ := List.getElem_of_mem hc
  exact hP.left _ _ (h.get hi (h.length_eq ▸ hi))

theorem recased_of_names (h : P.Names s s') : Recased s s' := by
  unfold Recased lowered
  rw [← List.forall₂_eq_eq_eq, List.forall₂_map_left_iff, List.forall₂_map_right_iff]
  exact h.imp fun c d => hP.recased c d

theorem isValid (h : P.Names s s') : Domain.isValid s = Domain.isValid s' := Domain.isValid_recased (hP.recased_of_names h)

theorem prose_of_names (h : P.Names s s') : P.Prose s s' := fun hx => by
  refine ⟨String.toList_inj.mp ?_, hP.spelt_of_names h⟩
  rw [← List.forall₂_eq_eq_eq]
  exact h.imp fun c d => hP.same hx c d

theorem texts_of_names (h : P.Names s s') : P.Texts explanation s s' := by
  cases explanation with
  | false => exact h
  | true => exact hP.prose_of_names h

/-! ### Names that are made from others -/

theorem splitSender (h : P.Names s s') :
    P.Names (Context.splitSender s).1 (Context.splitSender s').1 ∧ P.Names (Context.splitSender s).2 (Context.splitSender s').2 := by
  have cut := cutLast_of_forall₂ (fun c d hcd => hP.eq_iff hcd (show '@'.isAlpha = false by decide)) h
  unfold Context.splitSender
  cases hs : cutLast '@' s.toList <;> cases hs' : cutLast '@' s'.toList <;> rw [hs, hs'] at cut
  · exact ⟨.nil, h⟩
  · exact cut.elim
  · exact cut.elim
  · exact ⟨names_ofList cut.1, names_ofList cut.2⟩

theorem shortened (limit : Int) (h : P.Names s s') : P.Names (Domain.shortened limit s) (Domain.shortened limit s') := by
  have dot : ∀ c d, P.alike c d → (c = '.' ↔ d = '.') := fun c d hcd => hP.eq_iff hcd (by decide)
  unfold Domain.shortened
  dsimp only
  rw [h.length_eq, contains_of_forall₂ dot h]
  split
  · exact h
  · exact names_ofList (cutTo_of_forall₂ dot limit h)

theorem percentEncoded {l l' : List Char} (h : List.Forall₂ P.alike l l') :
    List.Forall₂ P.alike (percentEncoded l) (percentEncoded l') := by
  have digit : ∀ n < 16, IsPlain (hexDigitUpper n) := by decide
  have bytes : ∀ c : Char, ∀ d ∈ (String.utf8EncodeChar c).flatMap percentByte, P.alike d d := fun c d hd => by
    obtain ⟨b, -, hd⟩ := List.mem_flatMap.mp hd
    have size : b.toNat < 256 := b.toNat_lt
    refine hP.plain d ?_
    simp only [percentByte, List.mem_cons, List.not_mem_nil, or_false] at hd
    rcases hd with rfl | rfl | rfl
    · decide
    · exact digit _ (by omega)
    · exact digit _ (by omega)
  refine List.rel_flatMap h fun c d hcd => ?_
  rcases eq_or_isAlpha_of_toLower_eq (hP.recased c d hcd) with rfl | ⟨hc, hd⟩
  · split
    · exact .cons hcd .nil
    · exact List.forall₂_same.mpr (bytes c)
  · have unreserved : ∀ c : Char, c.isAlpha = true → isUnreserved c = true := fun c hc => by
      simp [isUnreserved, Char.isAlphanum, hc]
    rw [if_pos (unreserved c hc), if_pos (unreserved d hd)]
    exact .cons hcd .nil

theorem keptParts {m : Macro} (hm : MadeOf (Macro.isDelimiter · = true) m.delimiters) (h : P.Names s s') :
    List.Forall₂ (List.Forall₂ P.alike) (m.keptParts s.toList) (m.keptParts s'.toList) := by
  have marks : ∀ c ∈ (if m.delimiters = "" then ['.'] else m.delimiters.toList), c.isAlpha = false := fun c hc => by
    split at hc
    · rw [List.mem_singleton.mp hc]
      decide
    · have none : ['.', '-', '+', ',', '/', '_', '='].all (!·.isAlpha) = true := by decide
      simpa using List.all_eq_true.mp none c (List.contains_iff_mem.mp (hm c hc))
  unfold Macro.keptParts
  dsimp only
  generalize (if m.delimiters = "" then ['.'] else m.delimiters.toList) = delimiters at marks
  have cut : ∀ c d, P.alike c d → delimiters.contains c = delimiters.contains d := fun c d hcd => by
    rw [Bool.eq_iff_iff, List.contains_iff_mem, List.contains_iff_mem]
    exact ⟨fun hc => (hP.eq_iff hcd (marks c hc)).mp rfl ▸ hc, fun hd => (hP.eq_iff hcd (marks d hd)).mpr rfl ▸ hd⟩
  have parts := forall₂_pieces cut h
  have turned : List.Forall₂ (List.Forall₂ P.alike)
      (if m.reverse then (pieces delimiters.contains s.toList).reverse else pieces delimiters.contains s.toList)
      (if m.reverse then (pieces delimiters.contains s'.toList).reverse else pieces delimiters.contains s'.toList) := by
    split
    · exact List.rel_reverse parts
    · exact parts
  cases m.digits with
  | none => exact turned
  | some count => exact forall₂_lastParts count turned

theorem transform {m : Macro} (hm : MadeOf (Macro.isDelimiter · = true) m.delimiters) (h : P.Names s s') :
    P.Names (m.transform s) (m.transform s') := by
  have dot : List.Forall₂ P.alike ['.'] ['.'] := .cons (hP.plain '.' (by decide)) .nil
  have kept := hP.keptParts hm h
  unfold Macro.transform
  dsimp only
  refine names_ofList ?_
  split
  · exact hP.percentEncoded (forall₂_joined dot kept)
  · exact forall₂_joined dot kept

theorem texts_transform {m : Macro} (hm : MadeOf (Macro.isDelimiter · = true) m.delimiters) (h : P.Texts explanation s s') :
    P.Texts explanation (m.transform s) (m.transform s') := by
  cases explanation with
  | false => exact hP.transform hm h
  | true =>
    intro hx
    obtain ⟨rfl, spelt⟩ := h hx
    exact ⟨rfl, hP.spelt_of_names (hP.transform hm (.refl spelt))⟩

end Lawful

/-! ### Failures -/

/-- Errors with the same result; if explanations are the same, so are the errors, and their texts may stand in both checks. -/
structure Errors (P : Pairing) (e e' : PolicyError) : Prop where
  result : e.result = e'.result
  same : P.explained → e = e' ∧ e.SpeltIn fun c => P.alike c c

/-- Failures that come to the same; those that checks do not foresee are equal. -/
inductive Failures (P : Pairing) : Failure → Failure → Prop
  | policy {e e' : PolicyError} (h : P.Errors e e') : Failures P (.policy e) (.policy e')
  | fault (f : Fault) : Failures P (.fault f) (.fault f)

/-- Outcomes with values in a relation, or with failures that come to the same. -/
inductive Outcomes (P : Pairing) (Q : α → β → Prop) : Except Failure α → Except Failure β → Prop
  | ok {a : α} {b : β} (h : Q a b) : Outcomes P Q (.ok a) (.ok b)
  | error {x x' : Failure} (h : P.Failures x x') : Outcomes P Q (.error x) (.error x')

theorem Outcomes.mono {Q S : α → β → Prop} {r : Except Failure α} {r' : Except Failure β} (h : P.Outcomes Q r r')
    (hQ : ∀ a b, Q a b → S a b) : P.Outcomes S r r' := by
  cases h with
  | ok h => exact .ok (hQ _ _ h)
  | error h => exact .error h

theorem Outcomes.holding {M : α → Prop} {r r' : Except Failure α} (h : P.Outcomes Eq r r') (hM : ∀ a, r = .ok a → M a) :
    P.Outcomes (fun a b => a = b ∧ M a) r r' := by
  cases h with
  | ok h => exact .ok ⟨h, hM _ rfl⟩
  | error h => exact .error h

theorem Outcomes.bind {Q : α → β → Prop} {S : γ → δ → Prop} {r : Except Failure α} {r' : Except Failure β}
    {f : α → Except Failure γ} {f' : β → Except Failure δ} (h : P.Outcomes Q r r')
    (hf : ∀ a b, Q a b → P.Outcomes S (f a) (f' b)) : P.Outcomes S (r >>= f) (r' >>= f') := by
  cases h with
  | ok h => exact hf _ _ h
  | error h => exact .error h

theorem Outcomes.map {Q : α → β → Prop} {S : γ → δ → Prop} {r : Except Failure α} {r' : Except Failure β} {f : α → γ}
    {f' : β → δ} (h : P.Outcomes Q r r') (hf : ∀ a b, Q a b → S (f a) (f' b)) : P.Outcomes S (r.map f) (r'.map f') := by
  cases h with
  | ok h => exact .ok (hf _ _ h)
  | error h => exact .error h

/-- Two lists read element by element in the same way. -/
theorem outcomes_mapM {f f' : α → Except Failure β} {xs : List α} (h : ∀ x ∈ xs, P.Outcomes Eq (f x) (f' x)) :
    P.Outcomes Eq (xs.mapM f) (xs.mapM f') := by
  induction xs with
  | nil => exact .ok rfl
  | cons x xs ih =>
    rw [List.forall_mem_cons] at h
    rw [List.mapM_cons, List.mapM_cons]
    refine h.1.bind fun y _ hy => (ih h.2).bind fun ys _ hys => ?_
    subst hy hys
    exact .ok rfl

/-- The error of a text, which may tell the domain in whose policy it stands. -/
theorem errors_malformed {e e' : SyntaxError} (h : P.explained → e = e' ∧ e.SpeltIn fun c => P.alike c c) :
    P.Failures (.malformed e) (.malformed e') :=
  .policy ⟨rfl, fun hx => ⟨congrArg PolicyError.malformed (h hx).1, (h hx).2⟩⟩

/-! ### Reading -/

section
variable {domain domain' marker : String} (hd : P.Prose domain domain') (hm : P.explained → P.Spelt marker)

theorem outcomes_readLength {width : Nat} {tooLong : SyntaxError} {run : Option (List Char)}
    (h : P.explained → tooLong.SpeltIn fun c => P.alike c c) :
    P.Outcomes Eq (DualCidr.readLength width tooLong run) (DualCidr.readLength width tooLong run) := by
  unfold DualCidr.readLength
  split
  · exact .ok rfl
  · split
    · exact .error (.fault _)
    · split
      · exact .error (errors_malformed fun hx => ⟨rfl, h hx⟩)
      · exact .ok rfl

theorem outcomes_ofDirective {d : Directive} (h : P.explained → P.Spelt d.raw) :
    P.Outcomes Eq (DualCidr.ofDirective d) (DualCidr.ofDirective d) := by
  unfold DualCidr.ofDirective
  dsimp only
  split
  · exact .error (.fault _)
  · split
    · exact .error (errors_malformed fun hx => ⟨rfl, h hx⟩)
    · refine (outcomes_readLength h).bind fun ip4 _ h4 => (outcomes_readLength h).bind fun ip6 _ h6 => ?_
      subst h4 h6
      exact .ok rfl

include hd hm

theorem failures_ofMacroString {value : String} (hv : P.explained → P.Spelt value) (e : MacroStringError) :
    P.Failures (.ofMacroString domain value marker e) (.ofMacroString domain' value marker e) := by
  cases e with
  | numeral e => exact .fault _
  | position n =>
    refine errors_malformed fun hx => ?_
    obtain ⟨rfl, spelt⟩ := hd hx
    exact ⟨rfl, spelt, hm hx, hv hx⟩

theorem outcomes_checkDomainSpec {spec : String} (hs : P.explained → P.Spelt spec) :
    P.Outcomes Eq (Record.checkDomainSpec domain marker spec) (Record.checkDomainSpec domain' marker spec) := by
  unfold Record.checkDomainSpec
  split
  · exact .error (failures_ofMacroString hd hm hs _)
  · split
    · exact .ok rfl
    · refine .error (errors_malformed fun hx => ?_)
      obtain ⟨rfl, spelt⟩ := hd hx
      exact ⟨rfl, spelt, hs hx⟩

theorem outcomes_checkModifier {m : Modifier} (hs : P.explained → P.Spelt m.macroString) :
    P.Outcomes Eq (Record.checkModifier domain marker m) (Record.checkModifier domain' marker m) := by
  unfold Record.checkModifier
  split
  · exact outcomes_checkDomainSpec hd hm hs
  · split
    · exact .error (failures_ofMacroString hd hm hs _)
    · exact .ok rfl

omit hm in
theorem outcomes_checkNetwork {family : Family} {d : Directive} (hn : P.explained → P.Spelt d.mechanism.name)
    (hv : P.explained → P.Spelt d.value) :
    P.Outcomes Eq (Record.checkNetwork domain family d) (Record.checkNetwork domain' family d) := by
  unfold Record.checkNetwork
  split
  · refine .error (errors_malformed fun hx => ?_)
    obtain ⟨rfl, spelt⟩ := hd hx
    exact ⟨rfl, spelt, hn hx, hv hx⟩
  · split
    · exact .ok rfl
    · exact .error (errors_malformed fun hx => ⟨rfl, hv hx, hn hx⟩)

variable (hP : P.Lawful)
include hP

theorem outcomes_checkDirective {d : Directive} (hr : P.explained → P.Spelt d.raw) (hv : P.explained → P.Spelt d.value) :
    P.Outcomes Eq (Record.checkDirective domain marker d) (Record.checkDirective domain' marker d) := by
  have spec : P.Outcomes Eq (if d.value = "" then .ok () else Record.checkDomainSpec domain marker d.value)
      (if d.value = "" then .ok () else Record.checkDomainSpec domain' marker d.value) := by
    split
    · exact .ok rfl
    · exact outcomes_checkDomainSpec hd hm hv
  have dual : d.mechanism = .a ∨ d.mechanism = .mx →
      P.Outcomes Eq (Record.checkDirective domain marker d) (Record.checkDirective domain' marker d) := fun hm' => by
    rw [Record.checkDirective_dual hm', Record.checkDirective_dual hm']
    cases hc : DualCidr.ofDirective d with
    | error x =>
      have same := outcomes_ofDirective hr
      rw [hc] at same
      cases same with
      | error h => exact .error h
    | ok cidr =>
      show P.Outcomes Eq (if cidr.domainSpec = "" then _ else _) (if cidr.domainSpec = "" then _ else _)
      split
      · exact .ok rfl
      · refine outcomes_checkDomainSpec hd hm fun hx c hmem => ?_
        rcases DualCidr.mem_of_ofDirective hc hmem with rfl | hmem
        · exact hP.plain _ (by decide)
        · exact hv hx c hmem
  cases hk : d.mechanism with
  | a => exact dual (.inl hk)
  | mx => exact dual (.inr hk)
  | ip4 | ip6 =>
    unfold Record.checkDirective
    rw [hk]
    exact outcomes_checkNetwork hd (fun hx => by rw [hk]; exact hP.spelt_of_plain (by decide)) hv
  | incl | ptr | «exists» =>
    unfold Record.checkDirective
    rw [hk]
    exact spec
  | all | unknown =>
    unfold Record.checkDirective
    rw [hk]
    exact .ok rfl

theorem outcomes_readTerm {record : String} {term : List Char} (hr : P.explained → P.Spelt record)
    (ht : P.explained → ∀ c ∈ term, P.alike c c) :
    P.Outcomes Eq (Record.readTerm record domain marker term) (Record.readTerm record domain' marker term) := by
  have raw : P.explained → P.Spelt (String.ofList term) := fun hx => madeOf_ofList.mpr (ht hx)
  unfold Record.readTerm
  dsimp only
  split
  · rename_i d hdir
    obtain ⟨same, value⟩ := Directive.mem_of_ofText? hdir
    exact (outcomes_checkDirective hd hm hP (fun hx => same ▸ raw hx) fun hx c hc => raw hx c (value c hc)).map
      fun _ _ _ => rfl
  · split
    · rename_i m hmod
      obtain ⟨-, value⟩ := Modifier.mem_of_ofText? hmod
      exact (outcomes_checkModifier hd hm fun hx c hc => raw hx c (value c hc)).map fun _ _ _ => rfl
    · refine .error (errors_malformed fun hx => ?_)
      obtain ⟨rfl, spelt⟩ := hd hx
      exact ⟨rfl, spelt, raw hx, hm hx, hr hx⟩

/-- Whose policy a record is makes no difference to the terms that are read. -/
theorem outcomes_read {record : String} (hr : P.explained → P.Spelt record) :
    P.Outcomes Eq (Record.read domain marker record) (Record.read domain' marker record) := by
  have text : P.explained → P.Spelt (Record.unquoted record) := fun hx c hc => hr hx c (Record.mem_of_unquoted hc)
  unfold Record.read
  dsimp only
  split
  · refine .error (errors_malformed fun hx => ?_)
    obtain ⟨rfl, spelt⟩ := hd hx
    exact ⟨rfl, spelt, hm hx, text hx⟩
  · refine outcomes_mapM fun term ht => ?_
    obtain ⟨placed, hp, rfl⟩ := List.mem_map.mp ht
    exact outcomes_readTerm hd hm hP text fun hx c hc => text hx c (Record.mem_of_placedTerms hp c hc).1

end

/-! ### What is read for both checks -/

/-- The text of a record of a type may be given to both checks. -/
structure Suits (P : Pairing) (type : RecordType) (text : String) : Prop where
  spelt : P.Spelt text
  uses : type = .txt → Record.Uses P.letter text

/-- What two checks make of a term is alike if its texts may stand in both and its macros use the letters that they may. -/
structure Fits (P : Pairing) (t : Term) : Prop where
  spelt : t.SpeltIn fun c => P.alike c c
  uses : t.Uses P.letter

/-- Two checks expand a token to alike texts. -/
structure Expands (P : Pairing) (explanation : Bool) (token : Token) : Prop where
  read : token.ReadFrom explanation fun c => P.alike c c
  letter : explanation = false → ∀ m, token = .expansion m → P.letter m.letter

theorem Lawful.expands_of_readTokens (hP : P.Lawful) {s : String} (hs : P.Spelt s) (hu : explanation = false → SpecUses P.letter s)
    {tokens : List Token} (h : readTokens explanation s.toList = .ok tokens) : ∀ token ∈ tokens, P.Expands explanation token := by
  refine fun token ht => ⟨readFrom_of_readTokens hP.plain h hs token ht, ?_⟩
  rintro rfl m rfl
  exact hu rfl tokens h m ht

theorem Lawful.fits_of_read (hP : P.Lawful) {domain marker record : String} {terms : List Term}
    (h : Record.read domain marker record = .ok terms) (hr : P.Suits .txt record) : ∀ t ∈ terms, P.Fits t := fun t ht =>
  ⟨(Record.speltIn_of_read hP.plain h hr.spelt t ht).1, hr.uses rfl _ _ _ h t ht⟩

end Pairing

end SenderPolicy
