import SenderPolicy.Proofs.CompositionTables

/-! The composed form of a composed form is the same text. Marks of different classes do not mind the order in which they are
met, and a starter takes up a mark only across marks of lower classes; so the composed form is taken apart into the same
characters, in the same order of marks, as the text itself. -/

namespace SenderPolicy.Text

/-! ### Marks in order -/

/-- The classes ascend from a floor on, up to the next starter each time. -/
def Ascends : (floor : Nat) → List Nat → Prop
  | _, [] => True
  | floor, n :: rest => (combiningClass n = 0 ∨ floor ≤ combiningClass n) ∧ Ascends (combiningClass n) rest

/-- Marks without a starter among them. -/
def AreMarks (marks : List Nat) : Prop := ∀ n ∈ marks, combiningClass n ≠ 0

theorem ascends_insertMark {mark : Nat} {marks : List Nat} {floor : Nat} (hm : AreMarks marks) (h : Ascends floor marks)
    (hf : floor ≤ combiningClass mark) : Ascends floor (insertMark mark marks) := by
  induction marks generalizing floor with
  | nil => exact ⟨.inr hf, trivial⟩
  | cons n rest ih =>
    obtain ⟨own, later⟩ := List.forall_mem_cons.mp hm
    rw [insertMark]
    by_cases le : combiningClass n ≤ combiningClass mark
    · simp only [own, le, ne_eq, not_false_eq_true, decide_true, Bool.and_true, if_true]
      exact ⟨h.1, ih later h.2 le⟩
    · simp only [le, decide_false, Bool.and_false, Bool.false_eq_true, if_false]
      exact ⟨.inr hf, .inr (by omega), h.2⟩

theorem areMarks_insertMark {mark : Nat} {marks : List Nat} (hn : combiningClass mark ≠ 0) (hm : AreMarks marks) :
    AreMarks (insertMark mark marks) :=
  of_mem_insertMark (p := fun n => combiningClass n ≠ 0) hn hm

theorem ascends_append {floor n : Nat} {marks rest : List Nat} (hm : Ascends floor marks) (hn : combiningClass n = 0)
    (hr : Ascends 0 rest) : Ascends floor (marks ++ n :: rest) := by
  induction marks generalizing floor with
  | nil => exact ⟨.inl hn, hn ▸ hr⟩
  | cons m marks ih => exact ⟨hm.1, ih hm.2⟩

/-- Ordering marks puts them into ascending order. -/
theorem ascends_orderMarksFrom {marks l : List Nat} (hm : AreMarks marks) (h : Ascends 0 marks) :
    Ascends 0 (orderMarksFrom marks l) := by
  induction l generalizing marks with
  | nil => exact h
  | cons n rest ih =>
    rw [orderMarksFrom]
    by_cases hn : combiningClass n = 0
    · rw [if_pos hn]
      exact ascends_append h hn (ih (List.forall_mem_nil _) trivial)
    · rw [if_neg hn]
      exact ih (areMarks_insertMark hn hm) (ascends_insertMark hm h (Nat.zero_le _))

theorem insertMark_of_le {mark : Nat} {marks : List Nat} (h : ∀ n ∈ marks, combiningClass n ≠ 0 ∧ combiningClass n ≤ combiningClass mark) :
    insertMark mark marks = marks ++ [mark] := by
  induction marks with
  | nil => rfl
  | cons n rest ih =>
    obtain ⟨own, later⟩ := List.forall_mem_cons.mp h
    simp [insertMark, own.1, own.2, ih later]

/-- Marks in ascending order stay as they are. -/
theorem orderMarksFrom_of_ascends {floor : Nat} {marks l : List Nat}
    (hm : ∀ n ∈ marks, combiningClass n ≠ 0 ∧ combiningClass n ≤ floor) (h : Ascends floor l) :
    orderMarksFrom marks l = marks ++ l := by
  induction l generalizing floor marks with
  | nil => simp [orderMarksFrom]
  | cons n rest ih =>
    obtain ⟨above, later⟩ := h
    rw [orderMarksFrom]
    by_cases hn : combiningClass n = 0
    · have next : orderMarksFrom [] rest = rest := ih (List.forall_mem_nil _) later
      rw [if_pos hn, next]
    · have fits : ∀ m ∈ marks, combiningClass m ≠ 0 ∧ combiningClass m ≤ combiningClass n := fun m h =>
        ⟨(hm m h).1, Nat.le_trans (hm m h).2 (above.resolve_left hn)⟩
      have next : ∀ m ∈ marks ++ [n], combiningClass m ≠ 0 ∧ combiningClass m ≤ combiningClass n :=
        List.forall_mem_append.mpr ⟨fits, List.forall_mem_singleton.mpr ⟨hn, Nat.le_refl _⟩⟩
      rw [if_neg hn, insertMark_of_le fits, ih next later, List.append_assoc]
      rfl

/-! ### Texts with the same order of marks -/

/-- Two texts are the same when their marks are in order, whatever marks come before them. -/
def SameOrder (l l' : List Nat) : Prop := ∀ marks, orderMarksFrom marks l = orderMarksFrom marks l'

theorem SameOrder.refl (l : List Nat) : SameOrder l l := fun _ => rfl

theorem SameOrder.symm {l l' : List Nat} (h : SameOrder l l') : SameOrder l' l := fun marks => (h marks).symm

theorem SameOrder.trans {l l' l'' : List Nat} (h : SameOrder l l') (h' : SameOrder l' l'') : SameOrder l l'' :=
  fun marks => (h marks).trans (h' marks)

theorem SameOrder.append {l l' : List Nat} (h : SameOrder l l') (before : List Nat) : SameOrder (before ++ l) (before ++ l') := by
  induction before with
  | nil => exact h
  | cons n before ih =>
    intro marks
    simp only [List.cons_append, orderMarksFrom, ih _]

theorem insertMark_comm {a b : Nat} (ha : combiningClass a ≠ 0) (hab : combiningClass a < combiningClass b) (marks : List Nat) :
    insertMark a (insertMark b marks) = insertMark b (insertMark a marks) := by
  have le := Nat.le_of_lt hab
  have notLe := Nat.not_le.mpr hab
  induction marks with
  | nil => simp [insertMark, ha, le, notLe]
  | cons n rest ih =>
    by_cases hn : combiningClass n = 0
    · simp [insertMark, ha, le, notLe, hn]
    · rcases Nat.lt_or_ge (combiningClass a) (combiningClass n) with above | below
      · by_cases within : combiningClass n ≤ combiningClass b <;>
          simp [insertMark, ha, le, notLe, hn, within, Nat.not_le.mpr above]
      · simp [insertMark, hn, below, Nat.le_trans below le, ih]

theorem sameOrder_swap {a b : Nat} (ha : combiningClass a ≠ 0) (hab : combiningClass a < combiningClass b) (rest : List Nat) :
    SameOrder (a :: b :: rest) (b :: a :: rest) := by
  intro marks
  have hb : combiningClass b ≠ 0 := by omega
  simp only [orderMarksFrom, ha, hb, if_false, insertMark_comm ha hab]

/-- A mark may be met before marks of lower classes. -/
theorem sameOrder_move {n : Nat} {marks : List Nat} (hm : ∀ m ∈ marks, combiningClass m ≠ 0 ∧ combiningClass m < combiningClass n)
    (rest : List Nat) : SameOrder (marks ++ n :: rest) (n :: (marks ++ rest)) := by
  induction marks with
  | nil => exact .refl _
  | cons m marks ih =>
    obtain ⟨own, later⟩ := List.forall_mem_cons.mp hm
    exact ((ih later).append [m]).trans (sameOrder_swap own.1 own.2 _)

/-! ### The composed form -/

/-- Marks that were not taken up, backwards in the order of their classes. -/
structure KeptUpTo (floor : Nat) (kept : List Nat) : Prop where
  whole : ∀ m ∈ kept, IsWhole m
  marks : ∀ m ∈ kept, combiningClass m ≠ 0 ∧ combiningClass m ≤ floor
  sorted : kept.Pairwise fun m m' => combiningClass m' ≤ combiningClass m

theorem keptUpTo_nil (floor : Nat) : KeptUpTo floor [] := ⟨List.forall_mem_nil _, List.forall_mem_nil _, .nil⟩

namespace KeptUpTo

variable {floor n : Nat} {kept : List Nat} (h : KeptUpTo floor kept)
include h

theorem cons (whole : IsWhole n) (hn : combiningClass n ≠ 0) (above : floor ≤ combiningClass n) :
    KeptUpTo (combiningClass n) (n :: kept) where
  whole := List.forall_mem_cons.mpr ⟨whole, h.whole⟩
  marks := List.forall_mem_cons.mpr ⟨⟨hn, Nat.le_refl _⟩, fun m hm => ⟨(h.marks m hm).1, Nat.le_trans (h.marks m hm).2 above⟩⟩
  sorted := List.pairwise_cons.mpr ⟨fun m hm => Nat.le_trans (h.marks m hm).2 above, h.sorted⟩

/-- A character that is not blocked is of a higher class than all marks that were kept. -/
theorem lt_of_not_blocked (free : (kept.head?.any fun mark => combiningClass n ≤ combiningClass mark) = false) :
    ∀ m ∈ kept, combiningClass m < combiningClass n := by
  cases kept with
  | nil => exact List.forall_mem_nil _
  | cons mark kept =>
    have higher : combiningClass mark < combiningClass n := by simpa using free
    have lower := (List.pairwise_cons.mp h.sorted).1
    exact List.forall_mem_cons.mpr ⟨higher, fun m hm => Nat.lt_of_le_of_lt (lower m hm) higher⟩

theorem weaken (lower : ∀ m ∈ kept, combiningClass m < combiningClass n) : KeptUpTo (combiningClass n) kept :=
  ⟨h.whole, fun m hm => ⟨(h.marks m hm).1, Nat.le_of_lt (lower m hm)⟩, h.sorted⟩

theorem flatMap_reverse : kept.reverse.flatMap (takenApart decompositionDepth) = kept.reverse := by
  have same : kept.reverse.flatMap (takenApart decompositionDepth) = kept.reverse.flatMap ([·]) :=
    List.flatMap_congr fun m hm => takenApart_whole (h.whole m (List.mem_reverse.mp hm)) _
  simpa using same

end KeptUpTo

/-- What a starter and the characters after it are put together to has the same marks in order when it is taken apart. -/
theorem sameOrder_composeFrom (starter : Nat) {floor : Nat} {kept rest : List Nat} (hk : KeptUpTo floor kept) (h : Ascends floor rest)
    (whole : ∀ n ∈ rest, IsWhole n) :
    SameOrder ((composeFrom starter kept rest).flatMap (takenApart decompositionDepth))
      (takenApart decompositionDepth starter ++ (kept.reverse ++ rest)) := by
  induction rest generalizing floor starter kept with
  | nil =>
    rw [composeFrom, List.flatMap_cons, hk.flatMap_reverse, List.append_nil]
    exact .refl _
  | cons n rest ih =>
    obtain ⟨own, later⟩ := List.forall_mem_cons.mp whole
    obtain ⟨above, ascends⟩ := h
    rw [composeFrom]
    split
    · rename_i found
      split at found
      · cases found
      · rename_i character free
        -- The character moves across the marks that were kept.
        have lower := hk.lt_of_not_blocked (Bool.not_eq_true _ ▸ free)
        have moved : SameOrder (kept.reverse ++ n :: rest) (n :: (kept.reverse ++ rest)) := sameOrder_move (fun m hm =>
          ⟨(hk.marks m (List.mem_reverse.mp hm)).1, lower m (List.mem_reverse.mp hm)⟩) rest
        have composed := ih character (hk.weaken lower) ascends later
        rw [takenApart_composed found, List.append_assoc] at composed
        exact composed.trans (moved.symm.append _)
    · by_cases hn : combiningClass n = 0
      · rw [if_pos hn]
        have next := ih n (keptUpTo_nil _) ascends later
        rw [takenApart_whole own] at next
        rw [List.flatMap_append, List.flatMap_cons, hk.flatMap_reverse, List.append_assoc]
        exact (next.append kept.reverse).append _
      · rw [if_neg hn]
        have kept := ih starter (hk.cons own hn (above.resolve_left hn)) ascends later
        simpa using kept

theorem sameOrder_composeAll {l : List Nat} {floor : Nat} (h : Ascends floor l) (whole : ∀ n ∈ l, IsWhole n) :
    SameOrder ((composeAll l).flatMap (takenApart decompositionDepth)) l := by
  induction l generalizing floor with
  | nil => exact .refl _
  | cons n rest ih =>
    obtain ⟨own, later⟩ := List.forall_mem_cons.mp whole
    rw [composeAll]
    by_cases hn : combiningClass n = 0
    · rw [if_pos hn]
      have composed := sameOrder_composeFrom n (keptUpTo_nil _) h.2 later
      rwa [takenApart_whole own] at composed
    · rw [if_neg hn, List.flatMap_cons, takenApart_whole own]
      exact (ih h.2 later).append [n]

theorem validChar_kept : KeptByComposing Nat.isValidChar := by
  refine .of_entries (fun n hn => .inl ?_) ?_ ?_
  · rw [isSyllable_iff] at hn
    omega
  all_goals decide +kernel

/-- The composed form is taken apart into the same marks in order as the text itself. -/
theorem orderMarks_composedPoints (s : List Char) :
    orderMarksFrom [] ((composedPoints s).flatMap (takenApart decompositionDepth)) = orderMarksFrom [] (apart s) := by
  have whole : ∀ n ∈ orderMarksFrom [] (apart s), IsWhole n := by
    refine of_mem_orderMarksFrom (List.forall_mem_nil _) fun n hn => ?_
    obtain ⟨c, -, hn⟩ := List.mem_flatMap.mp hn
    exact whole_of_mem_takenApart hn
  have ascends : Ascends 0 (orderMarksFrom [] (apart s)) := ascends_orderMarksFrom (List.forall_mem_nil _) trivial
  calc orderMarksFrom [] ((composedPoints s).flatMap (takenApart decompositionDepth))
      = orderMarksFrom [] (orderMarksFrom [] (apart s)) := sameOrder_composeAll ascends whole []
    _ = orderMarksFrom [] (apart s) := orderMarksFrom_of_ascends (List.forall_mem_nil _) ascends

theorem toNat_ofNat_of_mem {s : List Char} {n : Nat} (h : n ∈ composedPoints s) : (Char.ofNat n).toNat = n := by
  have valid : n.isValidChar := validChar_kept.of_mem_composedPoints (fun c _ => c.valid) n h
  rw [show Char.ofNat n = Char.ofNatAux n valid from dif_pos valid]
  rfl

/-- The composed form of a composed form is the same text. -/
theorem composed_composed (s : List Char) : composed (composed s) = composed s := by
  by_cases low : (composed s).all (·.toNat < 0x300) = true
  · exact composed_of_low low
  · have high : ¬ s.all (·.toNat < 0x300) = true := fun h => low (by rwa [composed_of_low h])
    have parts : apart (composed s) = (composedPoints s).flatMap (takenApart decompositionDepth) := by
      rw [composed_of_high high, apart, List.flatMap_map]
      exact List.flatMap_congr fun n hn => by rw [toNat_ofNat_of_mem hn]
    rw [composed_of_high low, composedPoints, parts, orderMarks_composedPoints, composed_of_high high]
    rfl

end SenderPolicy.Text
