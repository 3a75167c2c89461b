import SenderPolicy.Error
import SenderPolicy.Proofs.MacroBodies

/-! The grammar of macro strings. The reader goes through a text once, so what it will say follows from how far it has come:
behind a percent sign it waits for an escape or a brace, in braces for the one that closes them. The text taken since the last
token belongs to what is still to be read. -/

namespace SenderPolicy

open Text

/-! ### The grammar -/

/-- What may follow a percent sign, other than a brace. -/
def escapeChars : List Char := ['%', '_', '-']

/-- A macro string: characters that stand for themselves, escapes, and macros in braces. -/
inductive IsMacroString (marks : List Char) (explanation : Bool) : List Char → Prop
  | nil : IsMacroString marks explanation []
  | plain {c : Char} {rest : List Char} (hc : c ≠ '%') (h : IsMacroString marks explanation rest) :
      IsMacroString marks explanation (c :: rest)
  | escape {c : Char} {rest : List Char} (hc : c ∈ escapeChars) (h : IsMacroString marks explanation rest) :
      IsMacroString marks explanation ('%' :: c :: rest)
  | expansion {body rest : List Char} (hb : Macro.IsBody marks explanation body) (h : IsMacroString marks explanation rest) :
      IsMacroString marks explanation ('%' :: '{' :: (body ++ '}' :: rest))

section
variable {explanation : Bool}

/-! ### Scanning -/

/-- The text that the reader has taken and not yet made a token or literal text of. -/
def ScanState.taken : ScanState → List Char
  | .plain _ => []
  | .percent _ _ => ['%']
  | .braces _ _ content => '%' :: '{' :: content.reverse

/-- Behind an escape the reader is back in literal text. -/
theorem scanTokens_escape (explanation : Bool) {c : Char} (hc : c ∈ escapeChars) (literal rest : List Char) (start n : Nat) :
    ∃ literal', scanTokens explanation (.percent literal start) n (c :: rest) =
      scanTokens explanation (.plain literal') (n + 1) rest := by
  rw [escapeChars, List.mem_cons, List.mem_cons, List.mem_singleton] at hc
  rcases hc with rfl | rfl | rfl <;> exact ⟨_, rfl⟩

theorem scanTokens_not_escape {c : Char} (hc : c ∉ escapeChars) (hb : c ≠ '{') (literal rest : List Char) (start n : Nat) :
    scanTokens explanation (.percent literal start) n (c :: rest) = .error (.position start) := by
  simp only [escapeChars, List.mem_cons, List.not_mem_nil, or_false, not_or] at hc
  rw [scanTokens, if_neg hc.1, if_neg hc.2.1, if_neg hc.2.2, if_neg hb]

/-- The reader takes all up to the brace that closes as the body of a macro. -/
theorem scanTokens_braces {body rest : List Char} (hb : '}' ∉ body) (literal : List Char) (start : Nat) :
    ∀ (content : List Char) (n : Nat), scanTokens explanation (.braces literal start content) n (body ++ '}' :: rest) = (do
      let m ← bracedMacro explanation start (content.reverse ++ body)
      let tokens ← scanTokens explanation (.plain []) (n + body.length + 1) rest
      pure (flush literal (.expansion m :: tokens))) := by
  induction body with
  | nil =>
    intro content n
    rw [List.append_nil]
    rfl
  | cons c body ih =>
    rw [List.mem_cons, not_or] at hb
    intro content n
    rw [List.cons_append, scanTokens, if_neg (Ne.symm hb.1), ih hb.2, List.reverse_cons, List.append_assoc,
      List.length_cons, Nat.add_right_comm n 1, Nat.add_assoc n]
    rfl

/-- Every macro string of the grammar is read. -/
theorem exists_scanTokens {s : List Char} (h : IsMacroString Macro.reverseMarks explanation s) (hr : Readable s) :
    ∀ literal n, ∃ tokens, scanTokens explanation (.plain literal) n s = .ok tokens := by
  induction h with
  | nil => exact fun literal n => ⟨_, rfl⟩
  | plain hc h ih =>
    intro literal n
    rw [scanTokens, if_neg hc]
    exact ih (hr.part (List.suffix_cons _ _).isInfix) _ _
  | @escape c rest hc h ih =>
    intro literal n
    obtain ⟨literal', escaped⟩ := scanTokens_escape explanation hc literal rest n (n + 1)
    rw [scanTokens, if_pos rfl, escaped]
    exact ih (hr.part ⟨['%', c], [], by simp⟩) literal' _
  | @expansion body rest hb h ih =>
    intro literal n
    obtain ⟨m, read⟩ := exists_bracedMacro n (hr.part ⟨['%', '{'], '}' :: rest, by simp⟩) hb
    obtain ⟨tokens, later⟩ := ih (hr.part ⟨'%' :: '{' :: body ++ ['}'], [], by simp⟩) [] (n + 1 + 1 + body.length + 1)
    refine ⟨flush literal (.expansion m :: tokens), ?_⟩
    rw [scanTokens, if_pos rfl]
    show scanTokens explanation (.braces literal n []) (n + 1 + 1) (body ++ '}' :: rest) = _
    rw [scanTokens_braces hb.brace_not_mem, List.reverse_nil, List.nil_append, read, later]
    rfl

/-- From a state on, the reader takes a macro string of the grammar, or fails at a position. -/
def ScanState.Sound (explanation : Bool) (state : ScanState) (n : Nat) (s : List Char) : Prop :=
  ((∃ tokens, scanTokens explanation state n s = .ok tokens) ∧
    IsMacroString Macro.reverseMarks explanation (state.taken ++ s)) ∨
    ∃ k, scanTokens explanation state n s = .error (.position k)

/-- The brace that closes a macro ends its body, and what follows is read from literal text on. -/
theorem ScanState.Sound.close {content rest : List Char} {n : Nat} (later : Sound explanation (.plain []) (n + 1) rest)
    (hr : Readable content.reverse) (hb : '}' ∉ content) (literal : List Char) (start : Nat) :
    Sound explanation (.braces literal start content) n ('}' :: rest) := by
  unfold Sound
  rw [scanTokens, if_pos rfl]
  rcases bracedMacro_sound explanation start hr (mt List.mem_reverse.mp hb) with ⟨⟨m, read⟩, grammatical⟩ | error
  · rw [read]
    rcases later with ⟨⟨tokens, read⟩, later⟩ | ⟨k, error⟩
    · rw [read]
      exact .inl ⟨⟨_, rfl⟩, .expansion grammatical later⟩
    · rw [error]
      exact .inr ⟨k, rfl⟩
  · rw [error]
    exact .inr ⟨start + 2, rfl⟩

/-- What is read is a macro string of the grammar, and all other is an error at a position. -/
theorem scanTokens_sound (explanation : Bool) : ∀ (state : ScanState) (n : Nat) (s : List Char),
    Readable (state.taken ++ s) → '}' ∉ state.taken → state.Sound explanation n s
  | .plain _, _, [], _, _ => .inl ⟨⟨_, rfl⟩, .nil⟩
  | .plain literal, n, c :: rest, hr, _ => by
    unfold ScanState.Sound
    rw [scanTokens]
    by_cases hc : c = '%'
    · subst hc
      rw [if_pos rfl]
      exact scanTokens_sound explanation (.percent literal n) (n + 1) rest hr (by simp [ScanState.taken])
    · rw [if_neg hc]
      have later := scanTokens_sound explanation (.plain (c :: literal)) (n + 1) rest (hr.part (List.suffix_cons c rest).isInfix) nofun
      exact later.imp_left fun ⟨read, later⟩ => ⟨read, .plain hc later⟩
  | .percent _ start, _, [], _, _ => .inr ⟨start, rfl⟩
  | .percent literal start, n, c :: rest, hr, _ => by
    by_cases hc : c ∈ escapeChars
    · obtain ⟨literal', escaped⟩ := scanTokens_escape explanation hc literal rest start n
      have later := scanTokens_sound explanation (.plain literal') (n + 1) rest
        (hr.part ⟨['%', c], [], by simp [ScanState.taken]⟩) nofun
      unfold ScanState.Sound
      rw [escaped]
      exact later.imp_left fun ⟨read, later⟩ => ⟨read, .escape hc later⟩
    · by_cases hb : c = '{'
      · subst hb
        exact scanTokens_sound explanation (.braces literal start []) (n + 1) rest hr (by simp [ScanState.taken])
      · exact .inr ⟨start, scanTokens_not_escape hc hb literal rest start n⟩
  | .braces _ start _, _, [], _, _ => .inr ⟨start, rfl⟩
  | .braces literal start content, n, c :: rest, hr, hb => by
    have unbraced : '}' ∉ content := fun h =>
      hb (List.mem_cons_of_mem _ (List.mem_cons_of_mem _ (List.mem_reverse.mpr h)))
    by_cases hc : c = '}'
    · subst hc
      have later := scanTokens_sound explanation (.plain []) (n + 1) rest
        (hr.part ⟨'%' :: '{' :: content.reverse ++ ['}'], [], by simp [ScanState.taken]⟩) nofun
      exact later.close (hr.part ⟨['%', '{'], '}' :: rest, by simp [ScanState.taken]⟩) unbraced literal start
    · -- the character is taken into the braces, so the whole text stays the same
      have whole : ScanState.taken (.braces literal start (c :: content)) ++ rest =
          ScanState.taken (.braces literal start content) ++ c :: rest := by
        simp [ScanState.taken]
      have later := scanTokens_sound explanation (.braces literal start (c :: content)) (n + 1) rest (whole ▸ hr)
        (by simp [ScanState.taken, Ne.symm hc, unbraced])
      unfold ScanState.Sound at later ⊢
      rw [scanTokens, if_neg hc, ← whole]
      exact later

/-! ### Rendering -/

/-- The letter of a macro, in upper case if what it stands for is escaped. -/
def Macro.letterText (letter : Letter) (escaped : Bool) : List Char :=
  if escaped then letter.text.toList.map Char.toUpper else letter.text.toList

/-- The digits of a number of parts; none if no number is given. -/
def Macro.countText (digits : Option Int) : List Char := digits.elim [] fun n => (toString n).toList

/-- What stands between the braces of a macro. -/
def Macro.spelling (m : Macro) : List Char :=
  letterText m.letter m.escaped ++ (countText m.digits ++ ((if m.reverse then ['r'] else []) ++ m.delimiters.toList))

/-- A token as a macro string writes it: a percent sign in literal text is doubled, and a macro stands in braces. -/
def Token.rendered : Token → List Char
  | .literal text => text.toList.flatMap fun c => if c = '%' then ['%', '%'] else [c]
  | .expansion m => '%' :: '{' :: (m.spelling ++ ['}'])

/-- A macro that has a spelling: one of the letters, allowed where it stands, a number of parts that is not zero and not too long
to be read, and delimiters. -/
structure Macro.IsSpelt (explanation : Bool) (m : Macro) : Prop where
  letter : m.letter ∈ Letter.all.map Prod.snd
  allowed : m.letter.explanationOnly = true → explanation = true
  digits : ∀ n ∈ m.digits, 0 < n ∧ (toString n).toList.length ≤ maxDigits
  delimiters : ∀ c ∈ m.delimiters.toList, isDelimiter c = true

/-- The token is literal text. -/
def Token.IsLiteral : Token → Prop
  | .literal _ => True
  | .expansion _ => False

/-- Tokens as the reader gives them: literals are not empty and never stand side by side, and macros have a spelling. -/
structure Canonical (explanation : Bool) (tokens : List Token) : Prop where
  literals : ∀ text, .literal text ∈ tokens → text ≠ ""
  macros : ∀ m, .expansion m ∈ tokens → m.IsSpelt explanation
  apart : tokens.IsChain fun a b => ¬ (a.IsLiteral ∧ b.IsLiteral)

theorem Canonical.tail {token : Token} {tokens : List Token} (h : Canonical explanation (token :: tokens)) :
    Canonical explanation tokens where
  literals text hm := h.literals text (List.mem_cons_of_mem _ hm)
  macros m hm := h.macros m (List.mem_cons_of_mem _ hm)
  apart := by
    cases tokens with
    | nil => exact .nil
    | cons next rest => exact (List.isChain_cons_cons.mp h.apart).2

theorem Canonical.next {text : String} {tokens : List Token} (h : Canonical explanation (.literal text :: tokens)) :
    ∀ token ∈ tokens.head?, ¬ token.IsLiteral := by
  cases tokens with
  | nil => exact fun _ => nofun
  | cons next rest =>
    intro token ht literal
    cases ht
    exact (List.isChain_cons_cons.mp h.apart).1 ⟨trivial, literal⟩

namespace Macro

theorem letter?_letterText {letter : Letter} (h : letter ∈ Letter.all.map Prod.snd) (escaped : Bool) :
    ∃ c, letterText letter escaped = [c] ∧ letter? c = some (letter, escaped) := by
  have all : ∀ letter ∈ Letter.all.map Prod.snd, ∀ escaped, (letterText letter escaped).map letter? = [some (letter, escaped)] := by
    decide
  exact List.map_eq_singleton_iff.mp (all letter h escaped)

theorem readCount_countText {digits : Option Int} (h : ∀ n ∈ digits, 0 < n ∧ (toString n).toList.length ≤ maxDigits) :
    readCount (countText digits) = .ok digits ∧ ∀ c ∈ countText digits, isDigit c = true := by
  cases digits with
  | none => exact ⟨rfl, fun _ => nofun⟩
  | some n => exact readCount_toString (h n rfl).1 (h n rfl).2

end Macro

/-- A macro is read back from its spelling. -/
theorem bracedMacro_spelling (start : Nat) {m : Macro} (h : m.IsSpelt explanation) :
    bracedMacro explanation start m.spelling = .ok m ∧ '}' ∉ m.spelling := by
  obtain ⟨letter, digits, reverse, delimiters, escaped⟩ := m
  obtain ⟨c, spelt, known⟩ := Macro.letter?_letterText h.letter escaped
  obtain ⟨count, decimal⟩ := Macro.readCount_countText h.digits
  have parts : Macro.Parts (Macro.countText digits) (if reverse then ['r'] else []) delimiters.toList := by
    refine ⟨decimal, ?_, h.delimiters⟩
    cases reverse with
    | true => exact .inr ⟨'r', by decide, rfl⟩
    | false => exact .inl rfl
  have permitted : (letter.explanationOnly && !explanation) = false := by
    rw [Bool.and_eq_false_imp, Bool.not_eq_false']
    exact h.allowed
  have marked : (!(if reverse then ['r'] else [] : List Char).isEmpty) = reverse := by cases reverse <;> rfl
  unfold Macro.spelling bracedMacro
  dsimp only
  rw [spelt, List.singleton_append, Macro.read_parts parts, known, count, marked, String.ofList_toList]
  dsimp only [Except.map]
  rw [permitted]
  refine ⟨rfl, parts.brace_not_mem ?_⟩
  rintro rfl
  cases known

/-- Literal text is read back with single percent signs. -/
theorem scanTokens_literal (explanation : Bool) (text rest : List Char) : ∀ literal n, ∃ n',
    scanTokens explanation (.plain literal) n ((text.flatMap fun c => if c = '%' then ['%', '%'] else [c]) ++ rest) =
      scanTokens explanation (.plain (text.reverse ++ literal)) n' rest := by
  induction text with
  | nil => exact fun literal n => ⟨n, rfl⟩
  | cons c text ih =>
    intro literal n
    rw [List.flatMap_cons, List.append_assoc, List.reverse_cons, List.append_assoc]
    by_cases hc : c = '%'
    · subst hc
      exact ih ('%' :: literal) (n + 1 + 1)
    · rw [if_neg hc, List.singleton_append, scanTokens, if_neg hc]
      exact ih (c :: literal) (n + 1)

/-- What canonical tokens are rendered as is read as these tokens. Literal text that comes before them stays in front. -/
theorem scanTokens_rendered {tokens : List Token} (h : Canonical explanation tokens) :
    ∀ literal n, (literal = [] ∨ ∀ token ∈ tokens.head?, ¬ token.IsLiteral) →
      scanTokens explanation (.plain literal) n (tokens.flatMap Token.rendered) = .ok (flush literal tokens) := by
  induction tokens with
  | nil => exact fun literal n _ => rfl
  | cons token tokens ih =>
    intro literal n apart
    rw [List.flatMap_cons]
    cases token with
    | literal text =>
      obtain rfl : literal = [] := apart.resolve_right fun h => h _ rfl trivial
      obtain ⟨n', scanned⟩ := scanTokens_literal explanation text.toList (tokens.flatMap Token.rendered) [] n
      have filled : text.toList.reverse.isEmpty = false := by
        have nonempty := h.literals text List.mem_cons_self
        rw [List.isEmpty_reverse, List.isEmpty_eq_false_iff]
        exact fun empty => nonempty (String.toList_inj.mp empty)
      refine scanned.trans ?_
      rw [List.append_nil, ih h.tail _ n' (.inr h.next), flush, filled, List.reverse_reverse, String.ofList_toList]
      rfl
    | expansion m =>
      obtain ⟨read, unbraced⟩ := bracedMacro_spelling n (h.macros m List.mem_cons_self)
      show scanTokens explanation (.braces literal n []) (n + 1 + 1) ((m.spelling ++ ['}']) ++ tokens.flatMap Token.rendered) = _
      rw [List.append_assoc, List.singleton_append, scanTokens_braces unbraced, List.reverse_nil, List.nil_append, read,
        ih h.tail [] _ (.inl rfl)]
      rfl

end

/-! ### The reader and the grammar -/

/-- The reader takes just the macro strings of the grammar, marks in either case, and is inverse to rendering. A text of ASCII
that is none is an error at a position, if its digits are not too many to be read. -/
theorem readTokens_grammar (explanation : Bool) :
    (∀ s, Readable s →
      ((∃ tokens, readTokens explanation s = .ok tokens) ↔ IsMacroString Macro.reverseMarks explanation s) ∧
      (¬ IsMacroString Macro.reverseMarks explanation s → ∀ domain marker, ∃ n,
        (readTokens explanation s).mapError (Failure.ofMacroString domain (String.ofList s) marker) =
          .error (Failure.malformed (.macroString domain ⟨n, marker, String.ofList s⟩)))) ∧
    ∀ tokens, Canonical explanation tokens → readTokens explanation (tokens.flatMap Token.rendered) = .ok tokens := by
  refine ⟨fun s hr => ?_, fun tokens h => (scanTokens_rendered h [] 0 (.inl rfl)).trans rfl⟩
  have sound := scanTokens_sound explanation (.plain []) 0 s hr nofun
  refine ⟨⟨?_, fun h => exists_scanTokens h hr [] 0⟩, fun not domain marker => ?_⟩
  · rintro ⟨tokens, read⟩
    rcases sound with ⟨-, grammatical⟩ | ⟨k, error⟩
    · exact grammatical
    · cases error.symm.trans read
  · rcases sound with ⟨-, grammatical⟩ | ⟨k, error⟩
    · exact absurd grammatical not
    · exact ⟨k, congrArg (Except.mapError _) error⟩

/-- The name for a lookup of the client is read, a letter for explanations is refused outside of them, and tokens come back from
what they are rendered as. -/
theorem readTokens_grammar_instances :
    IsMacroString Macro.reverseMarks false "%{ir}.%{v}._spf.%{D2}".toList ∧
      (∃ n, (readTokens false "a%{c}".toList).mapError (Failure.ofMacroString "example.com" "a%{c}" "➞") =
        .error (Failure.malformed (.macroString "example.com" ⟨n, "➞", "a%{c}"⟩))) ∧
      readTokens true "50%%%{T2r-}".toList = .ok [.literal "50%", .expansion ⟨.time, some 2, true, "-", true⟩] := by
  refine ⟨?_, ?_, ?_⟩
  · exact ((readTokens_grammar false).1 _ (.of_short (List.all_iff_forall_prop.mp (by decide)) (by decide))).1.mp ⟨_, rfl⟩
  · obtain ⟨grammatical, refused⟩ := (readTokens_grammar false).1 "a%{c}".toList (.of_short (List.all_iff_forall_prop.mp (by decide)) (by decide))
    exact refused (mt grammatical.mpr fun ⟨_, read⟩ => nomatch read) "example.com" "➞"
  · have spelt : (⟨.time, some 2, true, "-", true⟩ : Macro).IsSpelt true :=
      ⟨by decide, fun _ => rfl, by decide, List.all_iff_forall_prop.mp (by decide)⟩
    exact (readTokens_grammar true).2 [.literal "50%", .expansion ⟨.time, some 2, true, "-", true⟩]
      ⟨by simp, by simp [spelt], by simp [Token.IsLiteral]⟩

/-- A mark in upper case is read, though it is none of the grammar with marks in lower case only. -/
theorem readTokens_upperMark :
    Readable "%{dR}".toList ∧ (∃ tokens, readTokens false "%{dR}".toList = .ok tokens) ∧
      ¬ IsMacroString ['r'] false "%{dR}".toList := by
  refine ⟨.of_short (List.all_iff_forall_prop.mp (by decide)) (by decide), ⟨_, rfl⟩, fun h => ?_⟩
  generalize spelt : "%{dR}".toList = s at h
  cases h with
  | nil => cases spelt
  | plain hc => exact hc (List.cons.inj spelt).1.symm
  | escape hc =>
    obtain ⟨rfl, -⟩ := List.cons.inj (List.cons.inj spelt).2
    exact absurd hc (by decide)
  | @expansion body rest hb =>
    have inner : ['d', 'R', '}'] = body ++ '}' :: rest := (List.cons.inj (List.cons.inj spelt).2).2
    -- the mark stands in the body, behind its letter
    have second : 'R' ∈ body.tail := by
      match body, inner with
      | [_], inner => cases inner
      | _ :: d :: tail, inner =>
        rw [← (List.cons.inj (List.cons.inj inner).2).1]
        exact List.mem_cons_self
    exact absurd (hb.subset _ second) (by decide)

end SenderPolicy
