import SenderPolicy.Proofs.ComposedText
import SenderPolicy.Proofs.PairedClients

/-! Texts without line ends. Lower case and the composed form of a text have a line end only if the text has one, since no
entry of their tables stands for one; and errors of a resolver are told on one line, unless the resolver words them itself. -/

namespace SenderPolicy

open Dns Text

namespace Text

/-- A character that does not end a line. -/
def IsInline (c : Char) : Prop := c ≠ '\n' ∧ c ≠ '\r'

instance : DecidablePred IsInline := fun _ => inferInstanceAs (Decidable (_ ∧ _))

theorem isInline_iff {c : Char} : IsInline c ↔ c.toNat ≠ 10 ∧ c.toNat ≠ 13 := by
  unfold IsInline
  rw [ne_eq, ne_eq, ← Char.toNat_inj, ← Char.toNat_inj]
  rfl

theorem isInline_of_printable {c : Char} (h : isPrintable c = true) : IsInline c := by
  constructor <;> rintro rfl <;> exact absurd h (by decide)

theorem isInline_of_plain {c : Char} (h : IsPlain c) : IsInline c := isInline_of_printable (isPrintable_of_plain h)

theorem inline_of_plain {s : String} (h : MadeOf IsPlain s) : MadeOf IsInline s := h.mono fun _ => isInline_of_plain

/-! ### Lower case -/

theorem isInline_lowerChar {before after : List Char} {c : Char} (hc : IsInline c) : ∀ d ∈ lowerChar before c after, IsInline d := by
  intro d hd
  rcases lowerChar_cases hd with ⟨ascii, rfl⟩ | ⟨-, rfl | rfl | letter⟩
  · exact forall_ascii (p := fun c => IsInline c → IsInline c.toLower) (by decide) ascii hc
  · exact hc
  · decide
  · rw [isInline_iff]
    omega

theorem inline_lower {s : String} (h : MadeOf IsInline s) : MadeOf IsInline (lower s) :=
  madeOf_ofList.mpr (of_mem_lowerFrom (fun _ _ _ => isInline_lowerChar) h)

/-! ### The composed form -/

/-- The parts of characters, and the characters put together from them, lie above the controls that end lines. -/
theorem kept_of_high {p : Nat → Prop} (high : ∀ n, 13 < n → p n) : KeptByComposing p := by
  have parts : ∀ entry ∈ entries, ∀ m ∈ entry.2, 13 < m := by decide +kernel
  have wholes : ∀ entry ∈ compositionPairs, 13 < entry.1 := by decide +kernel
  refine .of_entries (fun n hn => high n ?_) (fun entry he _ m hm => high m (parts entry he m hm))
    fun entry he _ _ => high _ (wholes entry he)
  rw [isSyllable_iff] at hn
  omega

theorem isInline_composed {s : List Char} (h : ∀ c ∈ s, IsInline c) : ∀ c ∈ composed s, IsInline c := by
  have kept : KeptByComposing fun n => n ≠ 10 ∧ n ≠ 13 := kept_of_high fun n hn => by omega
  exact fun c hc => isInline_iff.mpr (kept.of_mem_composed (by decide) (fun c hc => isInline_iff.mp (h c hc)) c hc)

theorem inline_normalized {s : String} (h : MadeOf IsInline s) : MadeOf IsInline (Domain.normalized s) :=
  inline_lower (madeOf_ofList.mpr fun c hc => isInline_composed h c (List.mem_filter.mp hc).1)

end Text

/-! ### Errors of resolvers -/

namespace Dns

/-- Errors that the resolver words itself are told on one line. -/
def Resolver.TellsInline (resolver : Resolver) : Prop :=
  ∀ calls q kind message, resolver calls q = .error (.failed kind message) → MadeOf IsInline message

/-- The entry always answers with records. -/
def ZoneEntry.isAnswered : ZoneEntry → Bool
  | .fixed (.ok _) => true
  | _ => false

/-- A zone that holds records only words no error itself. -/
theorem tellsInline_resolver {zone : Zone} (h : ∀ named ∈ zone, ∀ typed ∈ named.2, typed.2.isAnswered) :
    zone.resolver.TellsInline := by
  intro calls q kind message he
  unfold Zone.resolver at he
  dsimp only at he
  split at he
  · cases he
  · rename_i types hl
    split at he
    · cases he
    · rename_i entry hm
      have answered := h _ (mem_of_lookup hl) _ (mem_of_lookup hm)
      cases entry with
      | fixed reply =>
        cases reply with
        | error e => cases answered
        | ok records => cases he
      | sequence replies => cases answered

theorem ResolverError.inline_message {e : ResolverError} (h : ∀ kind message, e = .failed kind message → MadeOf IsInline message) :
    MadeOf IsInline e.message := by
  have span : ∀ t : Seconds, MadeOf IsInline t.text := fun t => inline_of_plain t.plain_text
  cases e with
  | noSuchName | noAnswer | noNameservers => exact inline_of_plain (by decide)
  | lifetimeExpired after =>
    cases after with
    | none => exact inline_of_plain (by decide)
    | some t =>
      dsimp only [message]
      simp only [madeOf_append, madeOf_toString, span, and_true]
      exact ⟨inline_of_plain (by decide), inline_of_plain (by decide)⟩
  | timedOut after =>
    cases after with
    | none => exact inline_of_plain (by decide)
    | some t =>
      dsimp only [message]
      simp only [madeOf_append, madeOf_toString, span, and_true]
      exact ⟨inline_of_plain (by decide), inline_of_plain (by decide)⟩
  | failed kind message => exact h kind message rfl
  | badTimeout cause => exact (NumeralError.printed_message cause).mono fun _ => isInline_of_printable

theorem inline_ofResolver {e : ResolverError} (h : ∀ kind message, e = .failed kind message → MadeOf IsInline message) :
    MadeOf IsInline (LookupError.ofResolver e).message := by
  have rounded : ∀ kind message, e.rounded = .failed kind message → MadeOf IsInline message := fun kind message hr => by
    cases e with
    | failed kind' message' => exact h kind message hr
    | _ => cases hr
  unfold LookupError.ofResolver
  split
  · exact inline_of_plain (show MadeOf IsPlain LookupError.noSuchDomain.message by decide)
  · split
    · exact ResolverError.inline_message rounded
    · exact ResolverError.inline_message h

end Dns

/-! ### Checks of texts on one line -/

/-- Texts are equal and on one line, and so are explanations. -/
def Pairing.inline : Pairing where
  alike c d := c = d ∧ IsInline c
  letter _ := True
  explained := True

namespace Pairing

theorem spelt_inline_iff {s : String} : inline.Spelt s ↔ MadeOf IsInline s :=
  ⟨fun h => h.mono fun _ hc => hc.2, fun h => h.mono fun _ hc => ⟨rfl, hc⟩⟩

theorem names_inline_iff {s t : String} : inline.Names s t ↔ s = t ∧ MadeOf IsInline s := by
  refine ⟨fun h => ⟨String.toList_inj.mp ?_, fun c hc => ?_⟩, ?_⟩
  · rw [← List.forall₂_eq_eq_eq]
    exact h.imp fun _ _ hcd => hcd.1
  · obtain ⟨i, hi, rfl⟩ := List.getElem_of_mem hc
    exact (h.get hi (h.length_eq ▸ hi)).2
  · rintro ⟨rfl, hs⟩
    exact .refl (spelt_inline_iff.mpr hs)

theorem inline_lawful : inline.Lawful where
  plain _ hc := ⟨rfl, isInline_of_plain hc⟩
  left _ _ h := ⟨rfl, h.2⟩
  recased _ _ h := congrArg Char.toLower h.1
  lower _ _ h := congrArg Text.lower (names_inline_iff.mp h).1
  normalized _ _ h := congrArg Domain.normalized (names_inline_iff.mp h).1
  spelt_lower _ h := spelt_inline_iff.mpr (inline_lower (spelt_inline_iff.mp h))
  same _ _ _ h := h.1
  printed _ _ hc := ⟨rfl, isInline_of_printable hc⟩
  spelt_normalized _ _ h := spelt_inline_iff.mpr (inline_normalized (spelt_inline_iff.mp h))

end Pairing

end SenderPolicy
