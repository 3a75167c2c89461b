import SenderPolicy.Domain
import SenderPolicy.Proofs.Pieces

/-! Shortened names. A name that is too long loses its first label, again and again, until it fits or has a single label left.
So what stays is the longest end of the name that begins with a label and fits, and the last label where none fits. -/

namespace SenderPolicy.Domain

open Text

variable {limit : Int} {s t u label rest : List Char} {n : Nat}

/-! ### Ends of a text -/

/-- The text is the end of another one from its beginning on, or from behind one of its dots on. -/
def EndsWith (s t : List Char) : Prop := t = s ∨ ∃ front, s = front ++ '.' :: t

theorem EndsWith.length_le (h : EndsWith s t) : t.length ≤ s.length := by
  rcases h with rfl | ⟨front, rfl⟩
  · exact Nat.le_refl _
  · rw [List.length_append, List.length_cons]
    omega

/-- An end of a text is the text, or an end of what stands behind its first dot. -/
theorem endsWith_label_iff (undotted : '.' ∉ label) :
    EndsWith (label ++ '.' :: rest) u ↔ u = label ++ '.' :: rest ∨ EndsWith rest u := by
  constructor
  · rintro (whole | ⟨front, h⟩)
    · exact .inl whole
    · right
      rcases List.append_eq_append_iff.mp h with ⟨between, rfl, split⟩ | ⟨between, rfl, split⟩
      · rcases between with _ | ⟨c, between⟩
        · exact .inl (List.cons.inj split).2.symm
        · exact .inr ⟨between, (List.cons.inj split).2⟩
      · rcases between with _ | ⟨c, between⟩
        · exact .inl (List.cons.inj split).2
        · obtain ⟨rfl, -⟩ := List.cons.inj split
          exact absurd (by simp) undotted
  · rintro (whole | rfl | ⟨front, rfl⟩)
    · exact .inl whole
    · exact .inr ⟨label, rfl⟩
    · exact .inr ⟨label ++ '.' :: front, by simp⟩

theorem endsWith_undotted_iff (undotted : '.' ∉ s) : EndsWith s u ↔ u = s := by
  constructor
  · rintro (whole | ⟨front, rfl⟩)
    · exact whole
    · exact absurd (by simp) undotted
  · exact .inl

/-! ### Turns -/

/-- One turn: a text that is too long loses what stands before its first dot, and the dot. -/
def turn? (limit : Int) (s : List Char) : Option (List Char) :=
  if limit < s.length then (cutFirst '.' s).map (·.2) else none

/-- The text after a number of turns, if so many are to be made. -/
def afterTurns (limit : Int) : Nat → List Char → Option (List Char)
  | 0, s => some s
  | n + 1, s => (turn? limit s).bind (afterTurns limit n)

theorem turn?_eq_some_iff : turn? limit s = some t ↔ limit < s.length ∧ ∃ label, '.' ∉ label ∧ s = label ++ '.' :: t := by
  unfold turn?
  constructor
  · intro h
    split at h
    · rename_i long
      obtain ⟨⟨label, rest⟩, cut, rfl⟩ := Option.map_eq_some_iff.mp h
      have held : '.' ∈ s := by
        by_contra undotted
        rw [cutFirst_of_not_mem undotted] at cut
        cases cut
      obtain ⟨label', rest', rfl, undotted⟩ := List.eq_append_cons_of_mem held
      rw [cutFirst_append undotted] at cut
      cases cut
      exact ⟨long, label, undotted, rfl⟩
    · cases h
  · rintro ⟨long, label, undotted, rfl⟩
    rw [if_pos long, cutFirst_append undotted]
    rfl

theorem turn?_eq_none_iff : turn? limit s = none ↔ (s.length : Int) ≤ limit ∨ '.' ∉ s := by
  constructor
  · intro h
    rw [or_iff_not_imp_left, Int.not_le]
    intro long held
    obtain ⟨label, rest, rfl, undotted⟩ := List.eq_append_cons_of_mem held
    have turned := turn?_eq_some_iff.mpr ⟨long, label, undotted, rfl⟩
    rw [h] at turned
    cases turned
  · intro h
    by_contra turns
    obtain ⟨t, turned⟩ := Option.ne_none_iff_exists'.mp turns
    obtain ⟨long, label, -, rfl⟩ := turn?_eq_some_iff.mp turned
    rcases h with short | undotted
    · omega
    · exact undotted (by simp)

theorem length_turn?_lt (h : turn? limit s = some t) : t.length < s.length := by
  obtain ⟨-, label, -, rfl⟩ := turn?_eq_some_iff.mp h
  rw [List.length_append, List.length_cons]
  omega

/-- A turn takes the first label. -/
theorem exists_pieces_turn? (h : turn? limit s = some t) : ∃ label, pieces (· == '.') s = label :: pieces (· == '.') t := by
  obtain ⟨-, label, undotted, rfl⟩ := turn?_eq_some_iff.mp h
  exact ⟨label, by rw [pieces_append_cons rfl, pieces_of_not_mem undotted, List.singleton_append]⟩

/-- A turn loses no end of the text but the text itself, which is too long. -/
theorem endsWith_turn?_iff (h : turn? limit s = some t) : EndsWith s u ↔ u = s ∨ EndsWith t u := by
  obtain ⟨-, label, undotted, rfl⟩ := turn?_eq_some_iff.mp h
  exact endsWith_label_iff undotted

/-! ### Runs -/

/-- After some turns as many labels have gone, before each turn the text was too long, and no end of it that fits has been
lost. -/
structure Turned (limit : Int) (n : Nat) (s t : List Char) : Prop where
  labels : ∃ gone, gone.length = n ∧ pieces (· == '.') s = gone ++ pieces (· == '.') t
  needed : ∀ k < n, limit < (joined ['.'] ((pieces (· == '.') s).drop k)).length
  isEnd : EndsWith s t
  fitting : ∀ u, EndsWith s u → (u.length : Int) ≤ limit → EndsWith t u

theorem turned_of_afterTurns (h : afterTurns limit n s = some t) : Turned limit n s t := by
  induction n generalizing s with
  | zero =>
    cases h
    exact ⟨⟨[], rfl, rfl⟩, nofun, .inl rfl, fun _ h _ => h⟩
  | succ n ih =>
    obtain ⟨next, turn, later⟩ := Option.bind_eq_some_iff.mp h
    obtain ⟨long, -⟩ := turn?_eq_some_iff.mp turn
    obtain ⟨label, first⟩ := exists_pieces_turn? turn
    obtain ⟨⟨gone, count, labels⟩, needed, isEnd, fitting⟩ := ih later
    refine ⟨⟨label :: gone, by simp [count], by rw [first, labels, List.cons_append]⟩, ?_, ?_, ?_⟩
    · intro k hk
      cases k with
      | zero => rwa [List.drop_zero, joined_pieces fun _ hd => beq_iff_eq.mp hd]
      | succ k =>
        rw [first, List.drop_succ_cons]
        exact needed k (by omega)
    · exact (endsWith_turn?_iff turn).mpr (.inr isEnd)
    · intro u hu fits
      rcases (endsWith_turn?_iff turn).mp hu with rfl | hu
      · omega
      · exact fitting u hu fits

/-! ### The shortened name -/

theorem shortened_eq (limit : Int) (d : String) : shortened limit d =
    if (d.toList.length : Int) ≤ limit ∨ '.' ∉ d.toList then d else String.ofList (cutTo limit d.toList) := by
  unfold shortened
  simp only [Bool.or_eq_true, decide_eq_true_eq, Bool.not_eq_true', List.contains_eq_mem, decide_eq_false_iff_not]

theorem shortened_of_turn?_none {d : String} (h : turn? limit d.toList = none) : shortened limit d = d := by
  rw [shortened_eq, if_pos (turn?_eq_none_iff.mp h)]

theorem cutTo_label (undotted : '.' ∉ label) :
    cutTo limit (label ++ '.' :: rest) = if (rest.length : Int) ≤ limit ∨ '.' ∉ rest then rest else cutTo limit rest := by
  induction label with
  | nil => simp [cutTo]
  | cons c label ih =>
    rw [List.mem_cons, not_or] at undotted
    rw [List.cons_append, cutTo, if_neg (by simp [Ne.symm undotted.1]), ih undotted.2]

/-- A turn does not change what a name is shortened to. -/
theorem shortened_of_turn? {d : String} (h : turn? limit d.toList = some t) :
    shortened limit d = shortened limit (String.ofList t) := by
  obtain ⟨-, label, undotted, spelt⟩ := turn?_eq_some_iff.mp h
  have turns : ¬ ((d.toList.length : Int) ≤ limit ∨ '.' ∉ d.toList) := by
    rw [← turn?_eq_none_iff, h]
    exact Option.some_ne_none t
  rw [shortened_eq limit d, if_neg turns, spelt, cutTo_label undotted, shortened_eq, String.toList_ofList]
  split <;> rfl

/-- The turns end in the shortened name. -/
theorem exists_afterTurns_shortened (limit : Int) (d : String) :
    ∃ n, afterTurns limit n d.toList = some (shortened limit d).toList ∧ turn? limit (shortened limit d).toList = none := by
  induction hn : d.toList.length using Nat.strongRecOn generalizing d with
  | ind length ih =>
    cases turn : turn? limit d.toList with
    | none => exact ⟨0, by rw [shortened_of_turn?_none turn]; rfl, by rwa [shortened_of_turn?_none turn]⟩
    | some t =>
      obtain ⟨n, later, ended⟩ := ih t.length (hn ▸ length_turn?_lt turn) (String.ofList t) (by simp)
      rw [← shortened_of_turn? turn, String.toList_ofList] at later
      rw [← shortened_of_turn? turn] at ended
      exact ⟨n + 1, by rw [afterTurns, turn, Option.bind_some, later], ended⟩

/-- A shortened name fits, or it is a single label. -/
theorem shortened_fits (limit : Int) (d : String) :
    ((shortened limit d).toList.length : Int) ≤ limit ∨ '.' ∉ (shortened limit d).toList := by
  obtain ⟨n, -, ended⟩ := exists_afterTurns_shortened limit d
  exact turn?_eq_none_iff.mp ended

/-- What is left of a text when it loses no more labels than needed. -/
structure LosesLabels (limit : Int) (s t : List Char) : Prop where
  /-- The turns end. As many are made as labels go from the front, and with fewer gone the text is too long. -/
  ends : ∃ gone, pieces (· == '.') s = gone ++ pieces (· == '.') t ∧
    afterTurns limit gone.length s = some t ∧ turn? limit t = none ∧
    ∀ k < gone.length, limit < (joined ['.'] ((pieces (· == '.') s).drop k)).length
  isEnd : EndsWith s t
  /-- Where some end of the text fits, it is the longest that does. -/
  longest : (∃ u, EndsWith s u ∧ (u.length : Int) ≤ limit) →
    (t.length : Int) ≤ limit ∧ ∀ u, EndsWith s u → (u.length : Int) ≤ limit → u.length ≤ t.length
  /-- Where none does, it is the last label, and so the whole text if that has no dot. -/
  last : (∀ u, EndsWith s u → limit < u.length) → (pieces (· == '.') s).getLast? = some t ∧ ('.' ∉ s → t = s)

/-- A name loses labels from its front until it fits, no more of them than needed, and the last one never. -/
theorem shortened_losesLabels (limit : Int) (d : String) : LosesLabels limit d.toList (shortened limit d).toList := by
  obtain ⟨n, turns, ended⟩ := exists_afterTurns_shortened limit d
  obtain ⟨⟨gone, rfl, labels⟩, needed, isEnd, fitting⟩ := turned_of_afterTurns turns
  refine ⟨⟨gone, labels, turns, ended, needed⟩, isEnd, ?_, ?_⟩
  · rintro ⟨u, hu, fits⟩
    refine ⟨?_, fun u hu fits => (fitting u hu fits).length_le⟩
    rcases turn?_eq_none_iff.mp ended with short | undotted
    · exact short
    · rwa [← (endsWith_undotted_iff undotted).mp (fitting u hu fits)]
  · intro long
    have undotted : '.' ∉ (shortened limit d).toList :=
      (turn?_eq_none_iff.mp ended).resolve_left (by simpa using long _ isEnd)
    refine ⟨?_, fun single => (endsWith_undotted_iff single).mp isEnd⟩
    rw [labels, pieces_of_not_mem undotted, List.getLast?_concat]

/-- The last label stays, too long as it may be, and it may be empty. -/
example : shortened 6 "mail.a..b" = "a..b" ∧ shortened 1 "mail.com" = "com" ∧ shortened 0 "com." = "" := by decide

end SenderPolicy.Domain
