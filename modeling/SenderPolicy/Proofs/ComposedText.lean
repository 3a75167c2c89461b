import SenderPolicy.Proofs.Accepted
import SenderPolicy.Text.Composition

/-! What the composed form of a text is made of. Whatever holds of the parts of a character when it holds of the character,
and of a composed character when it holds of its two parts, holds of all characters of the composed form if it holds of all
characters of the text. -/

namespace SenderPolicy.Text

/-! ### Taking characters apart and putting them together -/

/-- Whether a code point is that of a syllable. -/
def isSyllable (n : Nat) : Bool := 0xAC00 ≤ n && n < 0xAC00 + 11172

/-- The letters of a syllable. -/
def letters (n : Nat) : List Nat :=
  let syllable := n - 0xAC00
  let start := [0x1100 + syllable / 588, 0x1161 + syllable % 588 / 28]
  if syllable % 28 = 0 then start else start ++ [0x11A7 + syllable % 28]

theorem isSyllable_iff {n : Nat} : isSyllable n = true ↔ 0xAC00 ≤ n ∧ n < 0xAC00 + 11172 := by
  simp only [isSyllable, Bool.and_eq_true, decide_eq_true_eq]

theorem of_mem_letters {n m : Nat} (h : isSyllable n = true) (hm : m ∈ letters n) : 0x1100 ≤ m ∧ m < 0x11C3 := by
  rw [isSyllable_iff] at h
  unfold letters at hm
  dsimp only at hm
  split at hm <;> simp at hm <;> omega

/-- The characters of the tables that have parts, with these parts. -/
def entries : List (Nat × List Nat) :=
  (compositionPairs ++ separatedPairs).map (fun entry => (entry.1, [entry.2.1, entry.2.2])) ++
    replacedCharacters.map fun entry => (entry.1, [entry.2])

theorem mem_entries_of_pair {entry : Nat × Nat × Nat} (h : entry ∈ compositionPairs ++ separatedPairs) :
    (entry.1, [entry.2.1, entry.2.2]) ∈ entries :=
  List.mem_append_left _ (List.mem_map.mpr ⟨entry, h, rfl⟩)

/-- All that a character may be taken apart into: the letters of a syllable, or the parts in the tables. -/
theorem decomposition?_cases {n : Nat} {parts : List Nat} (h : decomposition? n = some parts) :
    (isSyllable n = true ∧ letters n = parts) ∨ (n, parts) ∈ entries := by
  unfold decomposition? at h
  split at h
  · cases h
  · split at h
    · rename_i syllable
      exact .inl ⟨syllable, Option.some.inj h⟩
    · right
      split at h
      · rename_i first second found
        obtain rfl := Option.some.inj h
        have pair : (n, first, second) ∈ compositionPairs ++ separatedPairs := by
          rw [Option.orElse_eq_or] at found
          rcases Option.or_eq_some_iff.mp found with found | ⟨-, found⟩
          · exact List.mem_append_left _ (mem_of_lookup found)
          · exact List.mem_append_right _ (mem_of_lookup found)
        exact mem_entries_of_pair pair
      · obtain ⟨image, found, rfl⟩ := Option.map_eq_some_iff.mp h
        exact List.mem_append_right _ (List.mem_map.mpr ⟨_, mem_of_lookup found, rfl⟩)

/-- All that two characters may be put together from: two letters of a syllable, a syllable and its last letter, or a pair of
the table. -/
theorem composed?_cases {first second whole : Nat} (h : composed? first second = some whole) :
    (0x1100 ≤ first ∧ first < 0x1113 ∧ 0x1161 ≤ second ∧ second < 0x1176 ∧
      whole = 0xAC00 + ((first - 0x1100) * 21 + (second - 0x1161)) * 28) ∨
    (isSyllable first = true ∧ (first - 0xAC00) % 28 = 0 ∧ 0x11A7 < second ∧ second < 0x11C3 ∧
      whole = first + (second - 0x11A7)) ∨
    (whole, first, second) ∈ compositionPairs := by
  unfold composed? at h
  split at h
  · rename_i letters
    simp only [Bool.and_eq_true, decide_eq_true_eq, and_assoc] at letters
    obtain ⟨a, b, c, d⟩ := letters
    exact .inl ⟨a, b, c, d, (Option.some.inj h).symm⟩
  · split at h
    · rename_i syllable
      simp only [Bool.and_eq_true, decide_eq_true_eq, and_assoc] at syllable
      obtain ⟨a, b, c, d, e⟩ := syllable
      exact .inr (.inl ⟨isSyllable_iff.mpr ⟨a, b⟩, c, d, e, (Option.some.inj h).symm⟩)
    · obtain ⟨⟨whole', first', second'⟩, found, rfl⟩ := Option.map_eq_some_iff.mp h
      have same := List.find?_some found
      simp only [Bool.and_eq_true, beq_iff_eq] at same
      obtain ⟨rfl, rfl⟩ := same
      exact .inr (.inr (List.mem_of_find?_eq_some found))

/-- The code points that a text stands for, each taken apart completely. -/
def apart (s : List Char) : List Nat := s.flatMap fun c => takenApart decompositionDepth c.toNat

/-- The code points of the composed form. -/
def composedPoints (s : List Char) : List Nat := composeAll (orderMarksFrom [] (apart s))

theorem composed_of_low {s : List Char} (h : s.all (·.toNat < 0x300) = true) : composed s = s := if_pos h

theorem composed_of_high {s : List Char} (h : ¬ s.all (·.toNat < 0x300) = true) :
    composed s = (composedPoints s).map Char.ofNat := if_neg h

/-! ### Properties kept by the composed form -/

/-- A property of code points that passes to the parts of a character, and from two parts to the whole. -/
structure KeptByComposing (p : Nat → Prop) : Prop where
  part : ∀ {n parts}, decomposition? n = some parts → p n → ∀ m ∈ parts, p m
  whole : ∀ {first second whole}, composed? first second = some whole → p first → p second → p whole

section
variable {p : Nat → Prop}

theorem of_mem_insertMark {mark : Nat} (hm : p mark) : ∀ {l : List Nat}, (∀ n ∈ l, p n) → ∀ n ∈ insertMark mark l, p n
  | [], _ => by rwa [insertMark, List.forall_mem_singleton]
  | n :: rest, h => by
    rw [insertMark]
    split
    · rw [List.forall_mem_cons] at h ⊢
      exact ⟨h.1, of_mem_insertMark hm h.2⟩
    · exact List.forall_mem_cons.mpr ⟨hm, h⟩

theorem of_mem_orderMarksFrom : ∀ {l marks : List Nat}, (∀ n ∈ marks, p n) → (∀ n ∈ l, p n) → ∀ n ∈ orderMarksFrom marks l, p n
  | [], _, hm, _ => by rwa [orderMarksFrom]
  | n :: rest, marks, hm, h => by
    rw [List.forall_mem_cons] at h
    rw [orderMarksFrom]
    split
    · rw [List.forall_mem_append, List.forall_mem_cons]
      exact ⟨hm, h.1, of_mem_orderMarksFrom (List.forall_mem_nil _) h.2⟩
    · exact of_mem_orderMarksFrom (of_mem_insertMark h.1 hm) h.2

namespace KeptByComposing

/-- What holds of all letters of syllables and of all syllables is kept, if it is kept by the entries of the tables. -/
theorem of_entries (hangul : ∀ n, (0x1100 ≤ n ∧ n < 0x11C3) ∨ isSyllable n = true → p n)
    (parts : ∀ entry ∈ entries, p entry.1 → ∀ m ∈ entry.2, p m)
    (wholes : ∀ entry ∈ compositionPairs, p entry.2.1 → p entry.2.2 → p entry.1) : KeptByComposing p where
  part {n parts'} h hn := by
    rcases decomposition?_cases h with ⟨syllable, rfl⟩ | entry
    · exact fun m hm => hangul m (.inl (of_mem_letters syllable hm))
    · exact parts _ entry hn
  whole {first second whole} h hf hs := by
    rcases composed?_cases h with ⟨_, _, _, _, syllable⟩ | ⟨front, _, _, _, syllable⟩ | entry
    · exact hangul whole (.inr (isSyllable_iff.mpr (by omega)))
    · rw [isSyllable_iff] at front
      exact hangul whole (.inr (isSyllable_iff.mpr (by omega)))
    · exact wholes _ entry hf hs

variable (hp : KeptByComposing p)
include hp

theorem of_mem_takenApart : ∀ {depth n : Nat}, p n → ∀ m ∈ takenApart depth n, p m
  | 0, n, hn => by rwa [takenApart, List.forall_mem_singleton]
  | depth + 1, n, hn => by
    rw [takenApart]
    split
    · rwa [List.forall_mem_singleton]
    · rename_i parts found
      intro m hm
      obtain ⟨part, member, hm⟩ := List.mem_flatMap.mp hm
      exact of_mem_takenApart (hp.part found hn part member) m hm

theorem of_mem_composeFrom : ∀ {l kept : List Nat} {starter : Nat}, p starter → (∀ n ∈ kept, p n) → (∀ n ∈ l, p n) →
    ∀ n ∈ composeFrom starter kept l, p n
  | [], kept, starter, hs, hk, _ => by
    rw [composeFrom, List.forall_mem_cons]
    exact ⟨hs, fun n hn => hk n (List.mem_reverse.mp hn)⟩
  | n :: rest, kept, starter, hs, hk, h => by
    rw [List.forall_mem_cons] at h
    rw [composeFrom]
    split
    · rename_i whole hw
      have composed : composed? starter n = some whole := by
        split at hw
        · cases hw
        · exact hw
      exact of_mem_composeFrom (hp.whole composed hs h.1) hk h.2
    · split
      · rw [List.forall_mem_append, List.forall_mem_cons]
        exact ⟨⟨hs, fun n hn => hk n (List.mem_reverse.mp hn)⟩, of_mem_composeFrom h.1 (List.forall_mem_nil _) h.2⟩
      · exact of_mem_composeFrom hs (List.forall_mem_cons.mpr ⟨h.1, hk⟩) h.2

theorem of_mem_composeAll : ∀ {l : List Nat}, (∀ n ∈ l, p n) → ∀ n ∈ composeAll l, p n
  | [], _ => fun _ => nofun
  | n :: rest, h => by
    rw [List.forall_mem_cons] at h
    rw [composeAll]
    split
    · exact hp.of_mem_composeFrom h.1 (List.forall_mem_nil _) h.2
    · exact List.forall_mem_cons.mpr ⟨h.1, of_mem_composeAll h.2⟩

theorem of_mem_apart {s : List Char} (h : ∀ c ∈ s, p c.toNat) : ∀ n ∈ apart s, p n := by
  intro n hn
  obtain ⟨c, hc, hn⟩ := List.mem_flatMap.mp hn
  exact hp.of_mem_takenApart (h c hc) n hn

theorem of_mem_composedPoints {s : List Char} (h : ∀ c ∈ s, p c.toNat) : ∀ n ∈ composedPoints s, p n :=
  hp.of_mem_composeAll (of_mem_orderMarksFrom (List.forall_mem_nil _) (hp.of_mem_apart h))

/-- A code point that stands for no character becomes the null character. -/
theorem of_mem_composed (null : p 0) {s : List Char} (h : ∀ c ∈ s, p c.toNat) : ∀ c ∈ composed s, p c.toNat := by
  by_cases low : s.all (·.toNat < 0x300) = true
  · rwa [composed_of_low low]
  · rw [composed_of_high low]
    intro c hc
    obtain ⟨n, hn, rfl⟩ := List.mem_map.mp hc
    rcases ofNat_eq_or n with default | same
    · rw [default]
      exact null
    · rw [same]
      exact hp.of_mem_composedPoints h n hn

end KeptByComposing

end

end SenderPolicy.Text
