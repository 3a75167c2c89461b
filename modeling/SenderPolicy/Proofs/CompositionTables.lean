import SenderPolicy.Proofs.ComposedText

/-! Taking characters apart completely. Four steps are enough for every character: no entry of the tables is left after them,
which is worked out with sets of code points. A composed character is taken apart into the parts of the two that it was put
together from. -/

namespace SenderPolicy.Text

/-! ### Sets of code points -/

/-- A set of code points as a number with one bit for each, in which one is found without a search. -/
def bits : List Nat → Nat
  | [] => 0
  | n :: rest => 1 <<< n ||| bits rest

@[simp]
theorem testBit_bits {l : List Nat} {n : Nat} : (bits l).testBit n = true ↔ n ∈ l := by
  induction l with
  | nil => simp [bits]
  | cons m rest ih =>
    rw [bits, Nat.testBit_or, Nat.one_shiftLeft, Nat.testBit_two_pow, Bool.or_eq_true, decide_eq_true_eq, ih, List.mem_cons]
    exact or_congr_left eq_comm

/-! ### How often a character is taken apart -/

/-- A character stands for itself. -/
def IsWhole (n : Nat) : Prop := decomposition? n = none

/-- After some steps a character is taken apart completely. -/
def Settles (steps n : Nat) : Prop := ∀ m ∈ takenApart steps n, IsWhole m

section
variable {steps depth n m : Nat} {parts : List Nat}

theorem takenApart_whole (h : IsWhole n) (depth : Nat) : takenApart depth n = [n] := by
  cases depth with
  | zero => rfl
  | succ depth => rw [takenApart, show decomposition? n = none from h]

theorem IsWhole.settles (h : IsWhole n) (steps : Nat) : Settles steps n := by
  rw [Settles, takenApart_whole h, List.forall_mem_singleton]
  exact h

theorem takenApart_parts (h : decomposition? n = some parts) (steps : Nat) :
    takenApart (steps + 1) n = parts.flatMap (takenApart steps) := by
  rw [takenApart, h]

theorem settles_succ_iff (h : decomposition? n = some parts) : Settles (steps + 1) n ↔ ∀ m ∈ parts, Settles steps m := by
  rw [Settles, takenApart_parts h]
  simp only [List.mem_flatMap, forall_exists_index, and_imp, Settles]
  exact ⟨fun h part hp m hm => h m part hp hm, fun h m part hp hm => h part hp m hm⟩

/-- A character that is taken apart completely does not change in further steps. -/
theorem takenApart_of_settles (h : Settles steps n) (hd : steps ≤ depth) : takenApart depth n = takenApart steps n := by
  induction steps generalizing n depth with
  | zero =>
    have whole : IsWhole n := h n List.mem_cons_self
    rw [takenApart_whole whole, takenApart_whole whole]
  | succ steps ih =>
    cases found : decomposition? n with
    | none => rw [takenApart_whole found, takenApart_whole found]
    | some parts =>
      obtain ⟨depth, rfl⟩ : ∃ d, depth = d + 1 := ⟨depth - 1, by omega⟩
      rw [takenApart_parts found, takenApart_parts found]
      exact List.flatMap_congr fun m hm => ih ((settles_succ_iff found).mp h m hm) (by omega)

theorem Settles.mono (h : Settles steps n) (hd : steps ≤ depth) : Settles depth n := by
  rw [Settles, takenApart_of_settles h hd]
  exact h

end

/-! ### Entries of the tables -/

/-- The entries of characters that some steps may leave unfinished: those with a part that one step less may leave so. -/
def remaining : (steps : Nat) → List (Nat × List Nat)
  | 0 => entries
  | steps + 1 => (remaining steps).filter fun entry => entry.2.any (bits ((remaining steps).map (·.1))).testBit

theorem remaining_decompositionDepth : remaining decompositionDepth = [] := by decide +kernel

/-- Letters of syllables have no entries, and syllables are no parts. -/
theorem entries_apart : ∀ entry ∈ entries, 0xC0 ≤ entry.1 ∧ isSyllable entry.1 = false ∧ (entry.1 < 0x1100 ∨ 0x11C3 ≤ entry.1) ∧
    ∀ m ∈ entry.2, isSyllable m = false := by decide +kernel

/-- A character without an entry is whole, unless it is a syllable. -/
theorem whole_of_not_mem {n : Nat} (hn : isSyllable n = false) (h : ∀ parts, (n, parts) ∉ entries) : IsWhole n := by
  rw [IsWhole, Option.eq_none_iff_forall_ne_some]
  intro parts found
  rcases decomposition?_cases found with ⟨syllable, -⟩ | entry
  · rw [hn] at syllable
    cases syllable
  · exact h parts entry

theorem letter_whole {n : Nat} (h : 0x1100 ≤ n ∧ n < 0x11C3) : IsWhole n := by
  refine whole_of_not_mem ?_ fun parts entry => ?_
  · rw [← Bool.not_eq_true, isSyllable_iff]
    omega
  · have := (entries_apart _ entry).2.2.1
    omega

theorem settles_of_not_remaining {steps n : Nat} (hn : isSyllable n = false)
    (h : ∀ parts, decomposition? n = some parts → (n, parts) ∉ remaining steps) : Settles steps n := by
  induction steps generalizing n with
  | zero =>
    cases found : decomposition? n with
    | none => exact IsWhole.settles found 0
    | some parts =>
      have entry : (n, parts) ∈ entries := (decomposition?_cases found).resolve_left fun syllable => by simp [hn] at syllable
      exact absurd entry (h parts found)
  | succ steps ih =>
    cases found : decomposition? n with
    | none => exact IsWhole.settles found _
    | some parts =>
      by_cases left : (n, parts) ∈ remaining steps
      · have entry : (n, parts) ∈ entries := (decomposition?_cases found).resolve_left fun syllable => by simp [hn] at syllable
        -- none of its parts is among the remaining entries
        refine (settles_succ_iff found).mpr fun m hm => ih ((entries_apart _ entry).2.2.2 m hm) fun parts' _ left' => ?_
        refine h parts found (List.mem_filter.mpr ⟨left, List.any_eq_true.mpr ⟨m, hm, ?_⟩⟩)
        exact testBit_bits.mpr (List.mem_map.mpr ⟨_, left', rfl⟩)
      · refine (ih hn fun parts' found' => ?_).mono (Nat.le_succ steps)
        rwa [Option.some.inj (found'.symm.trans found)]

theorem settles_decompositionDepth (n : Nat) : Settles decompositionDepth n := by
  cases hn : isSyllable n with
  | false =>
    refine settles_of_not_remaining hn fun parts _ => ?_
    rw [remaining_decompositionDepth]
    exact List.not_mem_nil
  | true => 
    cases found : decomposition? n with
    | none => exact IsWhole.settles found _
    | some parts =>
      refine (settles_succ_iff found).mpr fun m hm => ?_
      rcases decomposition?_cases found with ⟨syllable, rfl⟩ | entry
      · exact (letter_whole (of_mem_letters syllable hm)).settles _
      · cases hn.symm.trans (entries_apart _ entry).2.1

/-- All parts of a character are whole. -/
theorem whole_of_mem_takenApart {n m : Nat} (h : m ∈ takenApart decompositionDepth n) : IsWhole m :=
  settles_decompositionDepth n m h

/-! ### Taking composed characters apart -/

theorem decomposition?_syllable {n : Nat} (h : isSyllable n = true) : decomposition? n = some (letters n) := by
  have high : ¬ n < 0xC0 := by
    rw [isSyllable_iff] at h
    omega
  rw [decomposition?, if_neg high]
  exact if_pos h

set_option maxRecDepth 16384 in
theorem decomposition?_pair {entry : Nat × Nat × Nat} (h : entry ∈ compositionPairs) :
    decomposition? entry.1 = some [entry.2.1, entry.2.2] := by
  have ordered : (compositionPairs.map (·.1)).Pairwise (· < ·) := List.isChain_iff_pairwise.mp (by decide)
  have found : compositionPairs.lookup entry.1 = some entry.2 := by
    rw [List.lookup_eq_some_iff]
    obtain ⟨before, after, split⟩ := List.append_of_mem h
    rw [split, List.map_append, List.map_cons, List.pairwise_append] at ordered
    refine ⟨before, after, split, fun other ho => ?_⟩
    have := ordered.2.2 other.1 (List.mem_map.mpr ⟨other, ho, rfl⟩) entry.1 List.mem_cons_self
    simp
    omega
  obtain ⟨high, noSyllable, -⟩ := entries_apart _ (mem_entries_of_pair (List.mem_append_left _ h))
  rw [decomposition?, if_neg (Nat.not_lt.mpr high), found]
  exact if_neg (by rw [← isSyllable, noSyllable]; decide)

set_option maxRecDepth 16384 in
theorem second_whole {entry : Nat × Nat × Nat} (h : entry ∈ compositionPairs) : IsWhole entry.2.2 := by
  have table : ∀ entry ∈ compositionPairs, (bits (entries.map (·.1))).testBit entry.2.2 = false := by decide
  obtain ⟨-, -, -, noSyllables⟩ := entries_apart _ (mem_entries_of_pair (List.mem_append_left _ h))
  refine whole_of_not_mem (noSyllables _ (by simp)) fun parts own => ?_
  have present : (bits (entries.map (·.1))).testBit entry.2.2 = true := testBit_bits.mpr (List.mem_map.mpr ⟨_, own, rfl⟩)
  exact absurd present (by rw [table entry h]; decide)

theorem takenApart_syllable {n : Nat} (h : isSyllable n = true) : takenApart decompositionDepth n = letters n := by
  have whole : ∀ m ∈ letters n, IsWhole m := fun m hm => letter_whole (of_mem_letters h hm)
  have same : (letters n).flatMap (takenApart 3) = (letters n).flatMap ([·]) :=
    List.flatMap_congr fun m hm => takenApart_whole (whole m hm) 3
  rw [decompositionDepth, takenApart_parts (decomposition?_syllable h), same]
  simp

/-- A character that was put together from two is taken apart into the parts of the first and the second. -/
theorem takenApart_composed {first second whole : Nat} (h : composed? first second = some whole) :
    takenApart decompositionDepth whole = takenApart decompositionDepth first ++ [second] := by
  rcases composed?_cases h with ⟨_, _, _, _, syllable⟩ | ⟨front, even, _, _, syllable⟩ | entry
  · have found : isSyllable whole = true := by
      rw [isSyllable_iff]
      omega
    have parts : letters whole = [first, second] := by
      have even : (whole - 0xAC00) % 28 = 0 := by omega
      simp [letters, even]
      omega
    rw [takenApart_syllable found, parts, takenApart_whole (letter_whole (by omega))]
    rfl
  · have bounds := isSyllable_iff.mp front
    have found : isSyllable whole = true := by
      rw [isSyllable_iff]
      omega
    have parts : letters whole = letters first ++ [second] := by
      have odd : (whole - 0xAC00) % 28 ≠ 0 := by omega
      simp [letters, even, odd]
      omega
    rw [takenApart_syllable found, takenApart_syllable front, parts]
  · have found : decomposition? whole = some [first, second] := decomposition?_pair entry
    have settled : Settles 3 first := (settles_succ_iff found).mp (settles_decompositionDepth whole) first List.mem_cons_self
    have deeper : takenApart decompositionDepth first = takenApart 3 first := takenApart_of_settles settled (by decide)
    have single : IsWhole second := second_whole entry
    rw [deeper, decompositionDepth, takenApart_parts found]
    simp [takenApart_whole single]

end SenderPolicy.Text
