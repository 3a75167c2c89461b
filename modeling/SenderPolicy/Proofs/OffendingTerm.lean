import SenderPolicy.Proofs.Grammar
import SenderPolicy.Proofs.TextErrors

/-! Words of a record that are no terms. The error is about the first of them and shows the record with a mark in it. The mark
stands where the text of the word occurs first; that is the place of the word itself, unless the text occurs in what stands
before the word. -/

namespace SenderPolicy

open Text

namespace Record

/-- The word is a directive or a modifier. -/
def IsTerm (word : List Char) : Prop :=
  (Directive.ofText? (String.ofList word)).isSome ∨ (Modifier.ofText? (String.ofList word)).isSome

/-- The first word of a record that is no term, with what stands between the version and the word, and what follows. -/
structure FirstMisread (record front word back : List Char) : Prop where
  whole : record = version.toList ++ front ++ word ++ back
  /-- The word is one: it has no white space in it, and white space or an end on each side. -/
  filled : word ≠ []
  solid : ∀ c ∈ word, isBlank c = false
  opens : front.getLast?.any isBlank = true
  closes : back.head?.all isBlank = true
  /-- The words of the record are those before it, the word, and those behind it. -/
  words : words (front ++ word ++ back) = words front ++ word :: words back
  before : ∀ earlier ∈ Text.words front, IsTerm earlier
  misread : ¬ IsTerm word

variable {domain marker record source text : String} {marked : Marked}

theorem exists_firstMisread (h : read domain marker record = .error (.malformed (.term source text marked))) :
    source = domain ∧ marked = ⟨(positionOf text.toList (unquoted record).toList).getD 0, marker, unquoted record⟩ ∧
      ∃ front back, FirstMisread (unquoted record).toList front text.toList back := by
  unfold read at h
  dsimp only at h
  split at h
  · cases h
  · rename_i shaped
    obtain ⟨rest, whole, spaced, -⟩ := misfit?_eq_none_iff.mp shaped
    obtain ⟨before, word, after, found, read, refused⟩ := exists_first_error_of_mapM h
    obtain ⟨undirected, unmodified, rfl, rfl, rfl⟩ := ofText?_of_readTerm refused
    rw [whole, map_snd_placedTerms] at found
    obtain ⟨front, back, rfl, ahead, behind, filled, solid, opens, closes⟩ := exists_of_words found
    rw [String.toList_ofList]
    refine ⟨rfl, rfl, front, back, ?_⟩
    refine { whole := ?whole, filled := filled, solid := solid, opens := ?opens, closes := closes, words := ?words,
             before := ?before, misread := ?misread }
    case whole => simp only [whole, List.append_assoc]
    case opens =>
      -- white space follows the version, and the word does not begin with any
      cases hl : front.getLast? with
      | some c =>
        rw [hl] at opens
        exact opens
      | none =>
        obtain rfl := List.getLast?_eq_none_iff.mp hl
        obtain ⟨c, word, rfl⟩ := List.exists_cons_of_ne_nil filled
        have visible := solid c List.mem_cons_self
        simp [visible] at spaced
    case words => rw [found, ahead, behind]
    case before =>
      intro earlier he
      rw [ahead] at he
      obtain ⟨term, ht⟩ := read earlier he
      exact ((readTerm_ok_iff _).mp ht).isSome
    case misread =>
      unfold IsTerm
      rw [undirected, unmodified]
      exact (Or.elim · nofun nofun)

/-- A record is refused for a word that is no term only for the first such word. The mark in the record that the error shows
stands at the first place where the text of the word occurs; this is the place of the word if and only if the text does not
occur before it. Without the mark, the text shown is the record. -/
theorem read_misread (h : read domain marker record = .error (.malformed (.term source text marked))) :
    source = domain ∧ marked.marker = marker ∧ marked.text = unquoted record ∧
    (∃ front back, FirstMisread (unquoted record).toList front text.toList back ∧
      marked.position ≤ (version.toList ++ front).length ∧
      (marked.position = (version.toList ++ front).length ↔
        ∀ i < (version.toList ++ front).length, ¬ text.toList <+: (unquoted record).toList.drop i)) ∧
    text.toList <+: (unquoted record).toList.drop marked.position ∧
    (∀ i < marked.position, ¬ text.toList <+: (unquoted record).toList.drop i) ∧
    marked.shown.toList.take marked.position ++ marked.shown.toList.drop (marked.position + marker.toList.length) =
      (unquoted record).toList := by
  obtain ⟨rfl, rfl, front, back, misread⟩ := exists_firstMisread h
  obtain ⟨n, within, found⟩ := exists_positionOf text.toList (version.toList ++ front) back
  rw [← misread.whole] at found
  obtain ⟨stands, first⟩ := positionOf_some found
  have bound : n ≤ (unquoted record).toList.length := by
    rw [misread.whole, List.length_append, List.length_append]
    omega
  rw [found, Option.getD_some]
  refine ⟨rfl, rfl, rfl, ⟨front, back, misread, within, ?_⟩, stands, first, ?_⟩
  · constructor
    · rintro rfl
      exact first
    · intro nowhere
      by_contra apart
      exact nowhere n (Nat.lt_of_le_of_ne within apart) stands
  · rw [Marked.shown, String.toList_ofList]
    exact take_append_drop_insertedAt bound _

/-- An include without a domain has the shape of a directive, but is none; the mark stands before it. -/
theorem read_misread_include : ∃ marked,
    read "example.com" defaultMarker "v=spf1 a include -all" = .error (.malformed (.term "example.com" "include" marked)) ∧
      "include".toList <+: "v=spf1 a include -all".toList.drop marked.position ∧
      marked.shown = "v=spf1 a ➞include -all" := by
  have refused : read "example.com" defaultMarker "v=spf1 a include -all" = .error (.malformed (.term "example.com" "include"
      ⟨9, defaultMarker, "v=spf1 a include -all"⟩)) := by decide
  have record : unquoted "v=spf1 a include -all" = "v=spf1 a include -all" := by decide
  obtain ⟨-, -, -, -, stands, -⟩ := read_misread refused
  rw [record] at stands
  exact ⟨_, refused, stands, by decide⟩

/-- A record with a word that also begins the term before it. -/
def shadowedRecord : String := "v=spf1 ip4:192.0.2.1 ip4 -all"

/-- The mark stands before the term, not before the word. -/
theorem position_shadowedRecord : ∃ marked,
    read "example.com" defaultMarker shadowedRecord = .error (.malformed (.term "example.com" "ip4" marked)) ∧
      marked.position = 7 ∧ ∀ front back, FirstMisread (unquoted shadowedRecord).toList front "ip4".toList back →
        (version.toList ++ front).length ≠ marked.position := by
  have refused : read "example.com" defaultMarker shadowedRecord =
      .error (.malformed (.term "example.com" "ip4" ⟨7, defaultMarker, shadowedRecord⟩)) := by decide
  refine ⟨_, refused, rfl, fun front back misread here => ?_⟩
  have rest : (unquoted shadowedRecord).toList.drop 7 = "ip4".toList ++ back := by
    rw [misread.whole, List.append_assoc, List.drop_left' here]
  have text : (unquoted shadowedRecord).toList.drop 7 = "ip4".toList ++ ":192.0.2.1 ip4 -all".toList := by decide
  obtain rfl := List.append_cancel_left (text.symm.trans rest)
  exact absurd misread.closes (by decide)

end Record

end SenderPolicy
