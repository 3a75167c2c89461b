import SenderPolicy.Domain
import SenderPolicy.Proofs.CompositionTables

/-! Characters that stay in a name: those that take up room and are in lower case. Putting a name into its normal form leaves
no others; and a composed character is one of them just when both its parts are, so the composed form has no others either. -/

-- what is worked out of the tables goes through all their entries
set_option maxRecDepth 16384

namespace SenderPolicy.Text

/-! ### Entries of the tables -/

/-- The code points that a run covers, as far as its steps go. -/
def covered (run : Nat × Nat × Nat × Nat) : List Nat :=
  (List.range ((run.2.1 - run.1) / run.2.2.1 + 1)).map fun k => run.1 + run.2.2.1 * k

/-- The code points that take up no room or have a lower case. -/
def unsteady : List Nat := [0x200B, 0x200C, 0x200D, 0xFEFF, 0x130] ++ lowerRuns.flatMap covered

/-- The code point takes up room, and stays as it is in lower case. -/
def isSteady (n : Nat) : Bool := !(bits unsteady).testBit n

theorem runs_ordered : ∀ run ∈ lowerRuns, run.1 ≤ run.2.1 := by decide

theorem mem_covered_iff {run : Nat × Nat × Nat × Nat} (hr : run.1 ≤ run.2.1) {n : Nat} :
    n ∈ covered run ↔ run.1 ≤ n ∧ n ≤ run.2.1 ∧ (n - run.1) % run.2.2.1 = 0 := by
  obtain ⟨first, last, step, image⟩ := run
  simp only [covered, List.mem_map, List.mem_range, Nat.lt_succ_iff]
  constructor
  · rintro ⟨k, hk, rfl⟩
    have within : step * k ≤ last - first := Nat.le_trans (Nat.mul_le_mul_left step hk) (Nat.mul_div_le ..)
    refine ⟨Nat.le_add_right .., ?_, by simp⟩
    dsimp only at hr
    omega
  · rintro ⟨low, high, whole⟩
    refine ⟨(n - first) / step, Nat.div_le_div_right (Nat.sub_le_sub_right high first), ?_⟩
    rw [Nat.mul_div_cancel' (Nat.dvd_of_mod_eq_zero whole), Nat.add_sub_cancel' low]

theorem mappedBy_eq_none_iff {n : Nat} : mappedBy lowerRuns n = none ↔ n ∉ lowerRuns.flatMap covered := by
  rw [mappedBy, Option.map_eq_none_iff, List.find?_eq_none, List.mem_flatMap, not_exists]
  refine forall_congr' fun run => ?_
  rw [not_and]
  refine forall_congr' fun hr => not_congr ?_
  rw [mem_covered_iff (runs_ordered run hr)]
  simp [and_assoc]

theorem isSteady_eq_true_iff {n : Nat} : isSteady n = true ↔ n ∉ unsteady := by
  rw [isSteady, Bool.not_eq_true', ← Bool.not_eq_true, testBit_bits]

theorem isSteady_iff {c : Char} :
    isSteady c.toNat = true ↔ Domain.isZeroWidth c = false ∧ c.toNat ≠ 0x130 ∧ mappedBy lowerRuns c.toNat = none := by
  rw [isSteady_eq_true_iff, unsteady, List.mem_append, not_or, ← mappedBy_eq_none_iff, ← and_assoc, and_congr_left_iff]
  intro _
  simp [Domain.isZeroWidth]
  omega

theorem images_steady : ∀ run ∈ lowerRuns, ∀ n ∈ covered run, isSteady (run.2.2.2 + (n - run.1)) = true := by decide

theorem entries_steady : ∀ entry ∈ entries, isSteady entry.1 = entry.2.all isSteady := by decide +kernel

/-- Letters of syllables, and syllables, have no case. -/
theorem isSteady_hangul {n : Nat} (h : (0x1100 ≤ n ∧ n < 0x11C3) ∨ isSyllable n = true) : isSteady n = true := by
  have apart : ∀ m ∈ unsteady, (m < 0x1100 ∨ 0x11C3 ≤ m) ∧ isSyllable m = false := by decide
  rw [isSteady_eq_true_iff]
  intro member
  obtain ⟨noLetter, noSyllable⟩ := apart n member
  rcases h with letter | syllable
  · omega
  · cases noSyllable.symm.trans syllable

/-! ### Lower case -/

/-- What lower case has beside the images of runs: the small letters sigma, an i with the dot above it, and the null character. -/
theorem special_steady : (∀ n ∈ [0x3C2, 0x3C3, 0x69, 0x307, 0], isSteady n = true) ∧ isSteady 0x3A3 = false := by decide

theorem ascii_steady {c : Char} (ascii : c.toNat < 128) :
    isSteady c.toLower.toNat = true ∧ (isSteady c.toNat = true → c.toLower = c) :=
  forall_ascii (p := fun c => isSteady c.toLower.toNat = true ∧ (isSteady c.toNat = true → c.toLower = c)) (by decide) ascii

theorem lowerChar_of_steady {before after : List Char} {c : Char} (h : isSteady c.toNat = true) :
    lowerChar before c after = [c] := by
  by_cases ascii : c.toNat < 128
  · rw [lowerChar_of_ascii ascii, (ascii_steady ascii).2 h]
  · obtain ⟨-, dotted, uncased⟩ := isSteady_iff.mp h
    have sigma : c.toNat ≠ 0x3A3 := by
      intro sigma
      rw [sigma, special_steady.2] at h
      cases h
    unfold lowerChar
    dsimp only
    rw [if_neg ascii, if_neg sigma, if_neg dotted, uncased]
    rfl

theorem lowerFrom_of_steady {s : List Char} (h : ∀ c ∈ s, isSteady c.toNat = true) (before : List Char) : lowerFrom before s = s := by
  induction s generalizing before with
  | nil => rfl
  | cons c s ih =>
    rw [List.forall_mem_cons] at h
    rw [lowerFrom, lowerChar_of_steady h.1, ih h.2]
    rfl

/-- Lower case leaves steady characters only, apart from those that take up no room. -/
theorem isSteady_lowerChar {before after : List Char} {c : Char} (hc : Domain.isZeroWidth c = false) :
    ∀ d ∈ lowerChar before c after, isSteady d.toNat = true := by
  by_cases ascii : c.toNat < 128
  · rw [lowerChar_of_ascii ascii, List.forall_mem_singleton]
    exact (ascii_steady ascii).1
  · unfold lowerChar
    dsimp only
    rw [if_neg ascii]
    split
    · rw [List.forall_mem_singleton]
      split
      · exact special_steady.1 0x3C2 (by decide)
      · exact special_steady.1 0x3C3 (by decide)
    · split
      · rw [List.forall_mem_cons, List.forall_mem_singleton]
        exact ⟨special_steady.1 0x69 (by decide), special_steady.1 0x307 (by decide)⟩
      · rename_i dotted
        rw [List.forall_mem_singleton]
        cases mapped : mappedBy lowerRuns c.toNat with
        | none => exact isSteady_iff.mpr ⟨hc, dotted, mapped⟩
        | some image =>
          obtain ⟨⟨first, last, step, start⟩, found, rfl⟩ := Option.map_eq_some_iff.mp mapped
          have run := List.mem_of_find?_eq_some found
          have inside := List.find?_some found
          simp only [Bool.and_eq_true, decide_eq_true_eq, beq_iff_eq, and_assoc] at inside
          have steady : isSteady (start + (c.toNat - first)) = true :=
            images_steady _ run _ ((mem_covered_iff (runs_ordered _ run)).mpr inside)
          show isSteady (Char.ofNat (start + (c.toNat - first))).toNat = true
          rcases ofNat_eq_or (start + (c.toNat - first)) with null | same
          · rw [null]
            exact special_steady.1 0 (by decide)
          · rwa [same]

/-! ### The composed form -/

theorem steady_kept : KeptByComposing (isSteady · = true) := by
  refine .of_entries (fun n => isSteady_hangul) (fun entry he steady => ?_) fun entry he first second => ?_
  · rw [entries_steady entry he] at steady
    exact List.all_eq_true.mp steady
  · have parts := entries_steady _ (mem_entries_of_pair (List.mem_append_left _ he))
    simpa [first, second] using parts

end SenderPolicy.Text
