import SenderPolicy.Proofs.ReadTexts

/-! The words of a text, and the characters of names. A word ends where white space follows, whatever stands behind
that; a character that may stand for one of the name of a mechanism is one that names have, and never white space. -/

namespace SenderPolicy

open Text

variable {s t w : List Char} {c : Char}

/-! ### Words -/

namespace Text

/-- The words of a text are the same wherever it stands. -/
theorem map_snd_placedWords (position : Nat) (s : List Char) : (placedWords position s).map (·.2) = words s := by
  have same : ∀ (position position' : Nat) (s : List Char),
      (placedWords position s).map (·.2) = (placedWords position' s).map (·.2) := by
    intro position position' s
    induction s generalizing position position' with
    | nil => rfl
    | cons c rest ih =>
      have later := ih (position + 1) (position' + 1)
      rw [placedWords, placedWords]
      dsimp only
      split
      · exact later
      · split
        · rw [List.map_cons, List.map_cons, later]
        · generalize placedWords (position + 1) rest = found at later
          generalize placedWords (position' + 1) rest = found' at later
          cases found <;> cases found' <;> simp_all
  exact same position 0 s

theorem words_of_blank (hc : isBlank c = true) (s : List Char) : words (c :: s) = words s := by
  unfold words
  rw [placedWords, if_pos hc, map_snd_placedWords, map_snd_placedWords]

theorem words_dropWhile (s : List Char) : words (s.dropWhile isBlank) = words s := by
  induction s with
  | nil => rfl
  | cons c s ih =>
    rw [List.dropWhile_cons]
    split
    · rename_i hc
      rw [ih, words_of_blank hc]
    · rfl

/-- The first word of a text ends where white space follows. -/
theorem words_append (hw : w ≠ []) (hn : ∀ c ∈ w, isBlank c = false) (ht : t.head?.all isBlank = true) :
    words (w ++ t) = w :: words t := by
  induction w with
  | nil => exact absurd rfl hw
  | cons c w ih =>
    have own : ¬ isBlank c = true := by simp [hn c (.head _)]
    unfold words
    rw [List.cons_append, placedWords]
    dsimp only
    rw [if_neg own]
    cases w with
    | nil =>
      rw [List.nil_append, if_pos ht, List.map_cons, map_snd_placedWords, map_snd_placedWords]
    | cons d w =>
      have later := ih (by simp) fun c hc => hn c (.tail _ hc)
      rw [← map_snd_placedWords 1] at later
      rw [if_neg (by simp [hn d (.tail _ (.head _))])]
      rcases hp : placedWords 1 (d :: w ++ t) with _ | ⟨placed, found⟩
      · rw [hp] at later
        cases later
      · rw [hp] at later
        obtain ⟨head, tail⟩ : placed.2 = d :: w ∧ found.map (·.2) = words t := List.cons.inj later
        rw [List.modifyHead_cons, List.map_cons, head, tail]
        rfl

/-- A text is its first word, if it starts with one, and a rest that starts with white space. -/
theorem exists_word (hc : isBlank c = false) (s : List Char) :
    ∃ w t, c :: s = w ++ t ∧ w ≠ [] ∧ (∀ d ∈ w, isBlank d = false) ∧ t.head?.all isBlank = true := by
  refine ⟨(c :: s).takeWhile (!isBlank ·), (c :: s).dropWhile (!isBlank ·), List.takeWhile_append_dropWhile.symm, ?_, ?_, ?_⟩
  · simp [hc]
  · intro d hd
    simpa using List.all_eq_true.mp List.all_takeWhile d hd
  · cases ht : (c :: s).dropWhile (!isBlank ·) with
    | nil => rfl
    | cons d rest =>
      have stopped := List.head?_dropWhile_not (!isBlank ·) (c :: s)
      rw [ht] at stopped
      simpa using stopped

/-- Behind the white space at its start, a text is its first word and a rest that has the other words. -/
theorem exists_word_of_dropWhile {rest : List Char} (h : s.dropWhile isBlank = c :: rest) :
    ∃ w t, c :: rest = w ++ t ∧ w ≠ [] ∧ (∀ d ∈ w, isBlank d = false) ∧ t.head?.all isBlank = true ∧
      words s = w :: words t := by
  have solid : isBlank c = false := by
    have stopped := List.head?_dropWhile_not isBlank s
    rw [h] at stopped
    simpa using stopped
  obtain ⟨w, t, hwt, hw, hn, ht⟩ := exists_word solid rest
  refine ⟨w, t, hwt, hw, hn, ht, ?_⟩
  rw [← words_dropWhile, h, hwt, words_append hw hn ht]

theorem words_append_of_blank {blanks : List Char} (h : ∀ c ∈ blanks, isBlank c = true) (s : List Char) :
    words (blanks ++ s) = words s := by
  induction blanks with
  | nil => rfl
  | cons c blanks ih =>
    obtain ⟨hc, later⟩ := List.forall_mem_cons.mp h
    rw [List.cons_append, words_of_blank hc, ih later]

/-- Each word of a text stands in it, behind the text that has the words before it. -/
theorem exists_of_words {before after : List (List Char)} (h : words s = before ++ w :: after) :
    ∃ front back, s = front ++ w ++ back ∧ words front = before ∧ words back = after ∧ w ≠ [] ∧ (∀ c ∈ w, isBlank c = false) ∧
      front.getLast?.all isBlank = true ∧ back.head?.all isBlank = true := by
  have blanks : ∀ s : List Char, ∀ c ∈ s.takeWhile isBlank, isBlank c = true := fun s => List.all_eq_true.mp List.all_takeWhile
  induction before generalizing s with
  | nil =>
    cases hs : s.dropWhile isBlank with
    | nil =>
      rw [← words_dropWhile, hs] at h
      cases h
    | cons c rest =>
      obtain ⟨w', t, whole, filled, solid, ends, found⟩ := exists_word_of_dropWhile hs
      obtain ⟨rfl, rfl⟩ : w' = w ∧ words t = after := List.cons.inj (found.symm.trans h)
      refine ⟨s.takeWhile isBlank, t, ?_, ?_, rfl, filled, solid, ?_, ends⟩
      · rw [List.append_assoc, ← whole, ← hs, List.takeWhile_append_dropWhile]
      · rw [← List.append_nil (s.takeWhile isBlank), words_append_of_blank (blanks s)]
        rfl
      · rw [Option.all_eq_true]
        exact fun c hc => blanks s c (List.mem_of_getLast? hc)
  | cons first before ih =>
    cases hs : s.dropWhile isBlank with
    | nil =>
      rw [← words_dropWhile, hs] at h
      cases h
    | cons c rest =>
      obtain ⟨w', t, whole, filled, solid, ends, found⟩ := exists_word_of_dropWhile hs
      obtain ⟨rfl, later⟩ : w' = first ∧ words t = before ++ w :: after := List.cons.inj (found.symm.trans h)
      obtain ⟨front, back, rfl, ahead, behind, filled', solid', closed, ends'⟩ := ih later
      -- the word behind the first one does not follow it at once
      have apart : front ≠ [] := by
        rintro rfl
        obtain ⟨d, w, rfl⟩ := List.exists_cons_of_ne_nil filled'
        have solid := solid' d List.mem_cons_self
        simp [solid] at ends
      refine ⟨s.takeWhile isBlank ++ (w' ++ front), back, ?_, ?_, behind, filled', solid', ?_, ends'⟩
      · rw [List.append_assoc, List.append_assoc, List.append_assoc, ← List.append_assoc front, ← whole, ← hs,
          List.takeWhile_append_dropWhile]
      · rw [words_append_of_blank (blanks s), words_append filled solid, ahead]
        obtain ⟨d, front, rfl⟩ := List.exists_cons_of_ne_nil apart
        exact ends
      · rwa [List.getLast?_append_of_ne_nil _ (List.append_ne_nil_of_right_ne_nil _ apart), List.getLast?_append_of_ne_nil _ apart]

theorem mem_of_words (h : w ∈ words s) : ∀ c ∈ w, c ∈ s ∧ isBlank c = false := by
  obtain ⟨placed, hp, rfl⟩ := List.mem_map.mp h
  exact Record.mem_of_placedWords hp

theorem head_stripped (p : Char → Bool) (s : List Char) : (stripped p s).head?.all (!p ·) = true := by
  have kept : stripped p s <+: s.dropWhile p := by
    have suffix := List.dropWhile_suffix p (l := (s.dropWhile p).reverse)
    exact List.reverse_suffix.mp (by simpa [stripped, dropTrailing] using suffix)
  cases hs : stripped p s with
  | nil => rfl
  | cons c rest =>
    obtain ⟨more, hm⟩ := hs ▸ kept
    have stopped := List.head?_dropWhile_not p s
    rw [← hm] at stopped
    simpa using stopped

end Text

/-! ### Characters of names -/

theorem isBlank_of_isNameChar (h : isNameChar c = true) : isBlank c = false := by
  have letters : ∀ d ∈ ['İ', 'ı', 'ſ', 'K', '_', '.', '-'], (!isBlank d) = true := List.all_eq_true.mp (by decide)
  have plain : 48 ≤ c.toNat ∧ c.toNat ≤ 122 → isBlank c = false := by
    intro range
    unfold isBlank
    simp only [Bool.or_eq_false_iff, Bool.and_eq_false_iff, decide_eq_false_iff_not, beq_eq_false_iff_ne]
    omega
  unfold isNameChar isFoldedLetter at h
  simp only [Bool.or_eq_true, beq_iff_eq] at h
  rcases h with ((((((((h | rfl) | rfl) | rfl) | rfl) | h) | rfl) | rfl) | rfl)
  case inl.inl.inl.inl.inl.inl.inl.inl =>
    unfold Char.isAlpha Char.isUpper Char.isLower at h
    simp only [Bool.or_eq_true, Bool.and_eq_true, decide_eq_true_eq] at h
    refine plain ?_
    rcases h with ⟨l, u⟩ | ⟨l, u⟩
    · have l : 65 ≤ c.toNat := l
      have u : c.toNat ≤ 90 := u
      omega
    · have l : 97 ≤ c.toNat := l
      have u : c.toNat ≤ 122 := u
      omega
  case inl.inl.inl.inr =>
    unfold Char.isDigit at h
    simp only [Bool.and_eq_true, decide_eq_true_eq] at h
    have l : 48 ≤ c.toNat := h.1
    have u : c.toNat ≤ 57 := h.2
    exact plain (by omega)
  all_goals exact (Bool.not_eq_true' _).mp (letters _ (by decide))

/-- What stands for a letter of a mechanism is a letter of a name. -/
theorem isNameChar_of_foldsTo {m : Mechanism} (hm : m ∈ Mechanism.known) {letter : Char} (hl : letter ∈ m.name.toList)
    (h : foldsTo letter c = true) : isNameChar c = true := by
  have own : ∀ m ∈ Mechanism.known, (m.name.toList.all isNameChar) = true := by decide
  unfold foldsTo at h
  simp only [Bool.or_eq_true, Bool.and_eq_true, beq_iff_eq] at h
  rcases h with ((folds | ⟨-, rfl | rfl⟩) | ⟨-, rfl⟩) | ⟨-, rfl⟩
  · unfold Char.toLower at folds
    split at folds
    · rename_i upper
      have alpha : c.isAlpha = true := by
        unfold Char.isAlpha Char.isUpper
        rw [Bool.or_eq_true, decide_eq_true_eq]
        exact .inl upper
      simp [isNameChar, isFoldedLetter, alpha]
    · exact List.all_eq_true.mp (own m hm) c (folds ▸ hl)
  all_goals decide

/-- What stands for a mechanism is made of characters of names. -/
theorem isNameChar_of_takeFolded {word taken rest : List Char}
    (hw : ∀ letter ∈ word, ∀ c, foldsTo letter c = true → isNameChar c = true)
    (h : takeFolded word s = some (taken, rest)) : s = taken ++ rest ∧ ∀ c ∈ taken, isNameChar c = true := by
  obtain ⟨whole, folds⟩ := takeFolded_some h
  refine ⟨whole, ?_⟩
  clear h whole
  induction folds with
  | nil => exact nofun
  | cons fold _ ih =>
    exact List.forall_mem_cons.mpr ⟨hw _ (.head _) _ fold, ih fun letter hl => hw letter (.tail _ hl)⟩

/-- A word of name characters is not found across white space. -/
theorem takeFolded_append {word : List Char}
    (hw : ∀ letter ∈ word, ∀ c, foldsTo letter c = true → isNameChar c = true) (ht : t.head?.all isBlank = true) :
    takeFolded word (s ++ t) = (takeFolded word s).map fun (taken, rest) => (taken, rest ++ t) := by
  induction word generalizing s with
  | nil => rfl
  | cons letter word ih =>
    cases s with
    | nil =>
      cases t with
      | nil => rfl
      | cons b t =>
        have blank : isBlank b = true := by simpa using ht
        have other : ¬ foldsTo letter b = true := fun folds => by
          simp [isBlank_of_isNameChar (hw letter (.head _) b folds)] at blank
        simp [takeFolded, other]
    | cons c s =>
      rw [List.cons_append, takeFolded, takeFolded, ih fun letter hl => hw letter (.tail _ hl)]
      split
      · simp only [Option.map_map]
        rfl
      · rfl

end SenderPolicy
