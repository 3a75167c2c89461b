import Mathlib.Computability.Language
import SenderPolicy.Domain
import SenderPolicy.Proofs.Pieces

/-! The grammar of domain names. A name is at least two labels with dots between them, perhaps with a dot behind the last
one. The reader of names leaves a line end behind the last label out of account, and a label may hold a line end itself, so
what it takes beside the names are the texts in which a line end makes the last label too long. -/

namespace SenderPolicy

open Text

namespace Domain

open Computability

variable {s ending : List Char} {d : String}

/-! ### Labels -/

/-- A label: one to 63 characters, none of them a dot. -/
structure IsLabel (label : List Char) : Prop where
  undotted : '.' ∉ label
  nonempty : 1 ≤ label.length
  short : label.length ≤ 63

/-- The text is at least two labels with dots between them, and an ending behind the last one. -/
def Labelled (ending s : List Char) : Prop :=
  ∃ labels, 2 ≤ labels.length ∧ (∀ label ∈ labels, IsLabel label) ∧ s = joined ['.'] labels ++ ending

/-- Labels come back when the text that they make is cut at its dots. -/
theorem pieces_labels {labels : List (List Char)} (two : 2 ≤ labels.length) (h : ∀ label ∈ labels, '.' ∉ label) :
    pieces (· == '.') (joined ['.'] labels) = labels := by
  refine pieces_joined_of_not_mem h ?_
  rintro rfl
  cases two

/-- What stands before the ending of a text of labels does not end in a dot. -/
theorem withoutFinalDot_labels {labels : List (List Char)} (two : 2 ≤ labels.length) (h : ∀ label ∈ labels, IsLabel label) :
    withoutFinalDot (joined ['.'] labels) = joined ['.'] labels := by
  obtain ⟨front, last, rfl⟩ : ∃ front last, labels = front ++ [last] :=
    (List.eq_nil_or_concat' labels).resolve_left (by rintro rfl; cases two)
  have proper := h last (by simp)
  have filled : last ≠ [] := List.length_pos_iff.mp proper.nonempty
  have plain : (joined ['.'] (front ++ [last])).getLast? ≠ some '.' := by
    rw [joined_concat, List.getLast?_append_of_ne_nil _ filled]
    exact fun dot => proper.undotted (List.mem_of_getLast? dot)
  unfold withoutFinalDot
  rw [if_neg plain]

theorem hasLabels_iff : hasLabels s = true ↔ Labelled [] s ∨ Labelled ['.'] s := by
  have cut : hasLabels s = true ↔ 2 ≤ (pieces (· == '.') (withoutFinalDot s)).length ∧
      ∀ label ∈ pieces (· == '.') (withoutFinalDot s), IsLabel label := by
    simp only [hasLabels, Bool.and_eq_true, decide_eq_true_eq, List.all_eq_true]
    refine and_congr_right fun _ => forall₂_congr fun label hl => ⟨fun ⟨filled, short⟩ => ⟨fun dot => ?_, filled, short⟩,
      fun h => ⟨h.nonempty, h.short⟩⟩
    exact absurd (not_of_mem_pieces hl '.' dot) (by decide)
  rw [cut]
  constructor
  · rintro ⟨two, proper⟩
    have whole := joined_pieces (p := (· == '.')) (c := '.') (fun d hd => beq_iff_eq.mp hd) (withoutFinalDot s)
    by_cases dotted : s.getLast? = some '.'
    · refine .inr ⟨_, two, proper, ?_⟩
      rw [whole, withoutFinalDot, if_pos dotted]
      exact (List.dropLast_append_getLast? '.' dotted).symm
    · refine .inl ⟨_, two, proper, ?_⟩
      rw [whole, withoutFinalDot, if_neg dotted, List.append_nil]
  · intro h
    obtain ⟨labels, two, proper, hs⟩ : ∃ labels, 2 ≤ labels.length ∧ (∀ label ∈ labels, IsLabel label) ∧
        withoutFinalDot s = joined ['.'] labels := by
      rcases h with ⟨labels, two, proper, rfl⟩ | ⟨labels, two, proper, rfl⟩
      · exact ⟨labels, two, proper, by rw [List.append_nil, withoutFinalDot_labels two proper]⟩
      · exact ⟨labels, two, proper, by simp [withoutFinalDot]⟩
    rw [hs, pieces_labels two fun label hl => (proper label hl).undotted]
    exact ⟨two, proper⟩

/-- Texts of labels by their last label. -/
theorem labelled_iff : Labelled ending s ↔ ∃ front last, front ≠ [] ∧ (∀ label ∈ front, IsLabel label) ∧ IsLabel last ∧
    s = front.flatMap (· ++ ['.']) ++ last ++ ending := by
  constructor
  · rintro ⟨labels, two, proper, rfl⟩
    obtain ⟨front, last, rfl⟩ := (List.eq_nil_or_concat' labels).resolve_left (by rintro rfl; cases two)
    refine ⟨front, last, ?_, fun label hl => proper label (List.mem_append_left _ hl), proper last (by simp), ?_⟩
    · rintro rfl
      exact absurd two (by simp)
    · rw [joined_concat]
  · rintro ⟨front, last, filled, proper, final, rfl⟩
    have := List.length_pos_iff.mpr filled
    refine ⟨front ++ [last], ?_, List.forall_mem_append.mpr ⟨proper, List.forall_mem_singleton.mpr final⟩, by rw [joined_concat]⟩
    rw [List.length_append, List.length_singleton]
    omega

/-! ### The pattern of names -/

/-- The texts that are one label. -/
def label : Language Char := {s | IsLabel s}

/-- The pattern of names: labels with a dot behind each, one more label, perhaps a dot. -/
def namePattern : Language Char := label * {['.']} * (label * {['.']})∗ * label * {[], ['.']}

/-- The end of a text, or a line end before it. -/
def lineEnd : Language Char := {[], ['\n']}

theorem mem_dottedLabel_iff : s ∈ label * {['.']} ↔ ∃ l, IsLabel l ∧ s = l ++ ['.'] := by
  rw [Language.mem_mul]
  constructor
  · rintro ⟨l, hl, _, rfl, rfl⟩
    exact ⟨l, hl, rfl⟩
  · rintro ⟨l, hl, rfl⟩
    exact ⟨l, hl, _, rfl, rfl⟩

theorem mem_dottedLabels_iff : s ∈ (label * {['.']})∗ ↔
    ∃ labels : List (List Char), (∀ label ∈ labels, IsLabel label) ∧ s = labels.flatMap (· ++ ['.']) := by
  rw [Language.mem_kstar]
  constructor
  · rintro ⟨parts, rfl, hp⟩
    induction parts with
    | nil => exact ⟨[], fun _ => nofun, rfl⟩
    | cons part parts ih =>
      obtain ⟨first, later⟩ := List.forall_mem_cons.mp hp
      obtain ⟨l, hl, rfl⟩ := mem_dottedLabel_iff.mp first
      obtain ⟨labels, proper, spelt⟩ := ih later
      refine ⟨l :: labels, List.forall_mem_cons.mpr ⟨hl, proper⟩, ?_⟩
      rw [List.flatten_cons, spelt, List.flatMap_cons]
  · rintro ⟨labels, proper, rfl⟩
    refine ⟨_, rfl, fun part hp => ?_⟩
    obtain ⟨l, hl, rfl⟩ := List.mem_map.mp hp
    exact mem_dottedLabel_iff.mpr ⟨l, proper l hl, rfl⟩

/-- The pattern describes the texts of labels. -/
theorem mem_namePattern_iff : s ∈ namePattern ↔ Labelled [] s ∨ Labelled ['.'] s := by
  rw [labelled_iff, labelled_iff, namePattern, Language.mem_mul]
  constructor
  · rintro ⟨_, named, ending, he, rfl⟩
    obtain ⟨_, dotted, last, final, rfl⟩ := Language.mem_mul.mp named
    obtain ⟨_, first, _, later, rfl⟩ := Language.mem_mul.mp dotted
    obtain ⟨l, hl, rfl⟩ := mem_dottedLabel_iff.mp first
    obtain ⟨labels, proper, rfl⟩ := mem_dottedLabels_iff.mp later
    have spelt : l ++ ['.'] ++ labels.flatMap (· ++ ['.']) = (l :: labels).flatMap (· ++ ['.']) := by simp
    rw [spelt]
    rcases he with rfl | rfl
    · exact .inl ⟨_, last, List.cons_ne_nil _ _, List.forall_mem_cons.mpr ⟨hl, proper⟩, final, rfl⟩
    · exact .inr ⟨_, last, List.cons_ne_nil _ _, List.forall_mem_cons.mpr ⟨hl, proper⟩, final, rfl⟩
  · have spelt : ∀ front last, front ≠ [] → (∀ label ∈ front, IsLabel label) → IsLabel last →
        front.flatMap (· ++ ['.']) ++ last ∈ label * {['.']} * (label * {['.']})∗ * label := by
      intro front last filled proper final
      obtain ⟨l, labels, rfl⟩ := List.exists_cons_of_ne_nil filled
      obtain ⟨hl, later⟩ := List.forall_mem_cons.mp proper
      exact Language.append_mem_mul (Language.append_mem_mul (mem_dottedLabel_iff.mpr ⟨l, hl, rfl⟩)
        (mem_dottedLabels_iff.mpr ⟨labels, later, rfl⟩)) final
    rintro (⟨front, last, filled, proper, final, rfl⟩ | ⟨front, last, filled, proper, final, rfl⟩)
    · exact ⟨_, spelt front last filled proper final, [], .inl rfl, rfl⟩
    · exact ⟨_, spelt front last filled proper final, ['.'], .inr rfl, rfl⟩

/-! ### The line end -/

theorem hasLabelsUpToLineEnd_iff : hasLabelsUpToLineEnd s = true ↔ s ∈ namePattern * lineEnd := by
  have lineEnded : (s.getLast? == some '\n') = true ↔ ∃ front, s = front ++ ['\n'] := by
    rw [beq_iff_eq]
    exact List.getLast?_eq_some_iff
  have pattern : ∀ t, hasLabels t = true ↔ t ∈ namePattern := fun t => hasLabels_iff.trans mem_namePattern_iff.symm
  rw [hasLabelsUpToLineEnd, Bool.or_eq_true, Bool.and_eq_true, lineEnded, pattern, pattern, Language.mem_mul]
  constructor
  · rintro (h | ⟨⟨front, rfl⟩, h⟩)
    · exact ⟨s, h, [], .inl rfl, List.append_nil s⟩
    · rw [List.dropLast_concat] at h
      exact ⟨front, h, ['\n'], .inr rfl, rfl⟩
  · rintro ⟨front, h, ending, rfl | rfl, rfl⟩
    · exact .inl (by rwa [List.append_nil])
    · exact .inr ⟨⟨front, rfl⟩, by rwa [List.dropLast_concat]⟩

/-- The text ends in a label of full length with a line end behind it. -/
def EndsTooLong (s : List Char) : Prop :=
  ∃ front last, front ≠ [] ∧ (∀ label ∈ front, IsLabel label) ∧ '.' ∉ last ∧ last.length = 63 ∧
    s = front.flatMap (· ++ ['.']) ++ (last ++ ['\n'])

/-- The last label of a text with a line end behind it takes the line end in, unless it is of full length. -/
theorem mem_pattern_lineEnd_iff : s ∈ namePattern * lineEnd ↔ (Labelled [] s ∨ Labelled ['.'] s) ∨ EndsTooLong s := by
  rw [← mem_namePattern_iff, Language.mem_mul]
  constructor
  · rintro ⟨t, h, ending, rfl | rfl, rfl⟩
    · exact .inl (by rwa [List.append_nil])
    have newline : IsLabel ['\n'] := ⟨by decide, by decide, by decide⟩
    rw [mem_namePattern_iff, labelled_iff, labelled_iff] at h
    rw [mem_namePattern_iff, labelled_iff]
    rcases h with ⟨front, last, filled, proper, final, rfl⟩ | ⟨front, last, filled, proper, final, rfl⟩
    · by_cases full : last.length = 63
      · exact .inr ⟨front, last, filled, proper, final.undotted, full, by simp⟩
      · have short := final.short
        refine .inl (.inl ⟨front, last ++ ['\n'], filled, proper, ⟨?_, ?_, ?_⟩, by simp⟩)
        · rw [List.mem_append, not_or]
          exact ⟨final.undotted, newline.undotted⟩
        · simp
        · rw [List.length_append, List.length_singleton]
          omega
    · -- a dot before the line end makes it a label of its own
      have proper' := List.forall_mem_append.mpr ⟨proper, List.forall_mem_singleton.mpr final⟩
      exact .inl (.inl ⟨front ++ [last], ['\n'], by simp, proper', newline, by simp⟩)
  · rintro (h | ⟨front, last, filled, proper, undotted, full, rfl⟩)
    · exact ⟨s, h, [], .inl rfl, List.append_nil s⟩
    · refine ⟨front.flatMap (· ++ ['.']) ++ last, ?_, ['\n'], .inr rfl, by simp⟩
      rw [mem_namePattern_iff, labelled_iff]
      exact .inl ⟨front, last, filled, proper, ⟨undotted, by omega, by omega⟩, by simp⟩

/-- A text that ends too long is no text of labels. -/
theorem not_labelled_of_endsTooLong (h : EndsTooLong s) : ¬ (Labelled [] s ∨ Labelled ['.'] s) := by
  obtain ⟨front, last, filled, proper, undotted, full, rfl⟩ := h
  rintro (⟨labels, two, proper', hs⟩ | ⟨labels, two, proper', hs⟩)
  · rw [← joined_concat, List.append_nil] at hs
    have undotted' : '.' ∉ last ++ ['\n'] := by simp [undotted]
    have cut : front ++ [last ++ ['\n']] = labels := by
      have := List.length_pos_iff.mpr filled
      rw [← pieces_labels two fun label hl => (proper' label hl).undotted, ← hs, pieces_labels]
      · rw [List.length_append, List.length_singleton]
        omega
      · exact List.forall_mem_append.mpr ⟨fun label hl => (proper label hl).undotted, List.forall_mem_singleton.mpr undotted'⟩
    have final := (proper' (last ++ ['\n']) (by rw [← cut]; simp)).short
    rw [List.length_append, full] at final
    exact absurd final (by decide)
  · have last := congrArg List.getLast? hs
    rw [← List.append_assoc, List.getLast?_concat, List.getLast?_concat] at last
    exact absurd (Option.some.inj last) (by decide)

/-! ### Names -/

/-- A domain name: one to 255 characters, in labels with dots between them and perhaps one behind, and no address. -/
structure IsName (d : String) : Prop where
  length : 1 ≤ d.toList.length ∧ d.toList.length ≤ 255
  labels : Labelled [] d.toList ∨ Labelled ['.'] d.toList
  noAddress : ∀ address, Address.ofText? (withoutDots d) ≠ some address

/-- A text of the length of a name that ends in a label of full length and a line end, and is no address. -/
structure IsOverlongName (d : String) : Prop where
  length : 1 ≤ d.toList.length ∧ d.toList.length ≤ 255
  labels : EndsTooLong d.toList
  noAddress : ∀ address, Address.ofText? (withoutDots d) ≠ some address

theorem IsOverlongName.not_isName (h : IsOverlongName d) : ¬ IsName d := fun named =>
  not_labelled_of_endsTooLong h.labels named.labels

theorem isValid_iff_pattern : isValid d = true ↔ (1 ≤ d.toList.length ∧ d.toList.length ≤ 255) ∧
    d.toList ∈ namePattern * lineEnd ∧ ∀ address, Address.ofText? (withoutDots d) ≠ some address := by
  have unaddressed : (!Address.isAddress (dropTrailing (· == '.') d.toList)) = true ↔
      ∀ address, Address.ofText? (withoutDots d) ≠ some address := by
    rw [Address.isAddress, Address.ofText?, withoutDots, String.toList_ofList, Bool.not_eq_true', ← Bool.not_eq_true,
      Option.not_isSome_iff_eq_none, Option.eq_none_iff_forall_ne_some]
  rw [← unaddressed, ← hasLabelsUpToLineEnd_iff, isValid]
  simp only [Bool.and_eq_true, decide_eq_true_eq, and_assoc]
  rfl

/-- The reader of names takes the texts of one to 255 characters that the pattern describes, a line end behind the pattern
left out of account, and that write no address without the dots at their end. These are the names, and beside them the
texts whose last label is of full length with a line end behind it; so the reader takes just the names wherever no such
text is given. -/
theorem isValid_iff_isName (d : String) :
    (isValid d = true ↔ (1 ≤ d.toList.length ∧ d.toList.length ≤ 255) ∧ d.toList ∈ namePattern * lineEnd ∧
      ∀ address, Address.ofText? (withoutDots d) ≠ some address) ∧
    (isValid d = true ↔ IsName d ∨ IsOverlongName d) ∧
    ((isValid d = true ↔ IsName d) ↔ ¬ IsOverlongName d) := by
  have named : isValid d = true ↔ IsName d ∨ IsOverlongName d := by
    rw [isValid_iff_pattern, mem_pattern_lineEnd_iff]
    constructor
    · rintro ⟨length, labels | labels, noAddress⟩
      · exact .inl ⟨length, labels, noAddress⟩
      · exact .inr ⟨length, labels, noAddress⟩
    · rintro (⟨length, labels, noAddress⟩ | ⟨length, labels, noAddress⟩)
      · exact ⟨length, .inl labels, noAddress⟩
      · exact ⟨length, .inr labels, noAddress⟩
  refine ⟨isValid_iff_pattern, named, ?_⟩
  rw [named]
  constructor
  · intro h overlong
    exact overlong.not_isName (h.mp (.inr overlong))
  · intro h
    exact or_iff_left h

/-- A label of full length behind another one, and a line end. -/
def lineEndedName : String := String.ofList ('a' :: '.' :: List.replicate 63 'b' ++ ['\n'])

/-- The last label of this text has 64 characters, and it is taken for a name. -/
theorem isValid_lineEndedName : isValid lineEndedName = true ∧ ¬ IsName lineEndedName := by
  refine ⟨by decide, fun named => ?_⟩
  have labels := hasLabels_iff.mpr named.labels
  exact absurd labels (by decide)

end Domain

end SenderPolicy
