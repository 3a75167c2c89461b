import Mathlib.Data.List.DropRight
import SenderPolicy.Evaluation.Expansion
import SenderPolicy.Proofs.LetterCase
import SenderPolicy.Proofs.PercentText

/-! What a macro makes of a text: the last of the parts between its separators, turned round before if the macro says so, with
dots between them. A macro that says nothing leaves the text as it is, and what a macro in upper case encodes comes back when
it is decoded. -/

namespace SenderPolicy

open Text

namespace Text

variable {separators s : List Char} {parts : List (List Char)}

/-! ### Cutting at separators -/

/-- The parts of a text between the separators in it. -/
inductive CutInto (separators : List Char) : List Char → List (List Char) → Prop
  | last {part : List Char} (plain : ∀ c ∈ part, c ∉ separators) : CutInto separators part [part]
  | next {part rest : List Char} {c : Char} {parts : List (List Char)} (plain : ∀ c ∈ part, c ∉ separators)
      (separator : c ∈ separators) (later : CutInto separators rest parts) : CutInto separators (part ++ c :: rest) (part :: parts)

theorem pieces_of_cutInto (h : CutInto separators s parts) : pieces separators.contains s = parts := by
  have plain : ∀ part : List Char, (∀ c ∈ part, c ∉ separators) → ∀ c ∈ part, separators.contains c = false := by
    intro part h c hc
    simpa using h c hc
  induction h with
  | last h => exact pieces_of_forall_not (plain _ h)
  | next h separator _ ih =>
    rw [pieces_append_cons (List.contains_iff_mem.mpr separator), pieces_of_forall_not (plain _ h), ih]
    rfl

theorem cutInto_pieces (separators s : List Char) : CutInto separators s (pieces separators.contains s) := by
  induction s with
  | nil => exact .last fun _ => nofun
  | cons c s ih =>
    rw [pieces]
    split
    · rename_i hc
      show CutInto separators ([] ++ c :: s) _
      exact .next (List.forall_mem_nil _) (List.contains_iff_mem.mp hc) ih
    · rename_i hc
      have plain : c ∉ separators := mt List.contains_iff_mem.mpr hc
      generalize pieces separators.contains s = parts at ih
      cases ih with
      | last h => exact .last (List.forall_mem_cons.mpr ⟨plain, h⟩)
      | next h separator later => exact .next (List.forall_mem_cons.mpr ⟨plain, h⟩) separator later

/-- A text has just one list of parts. -/
theorem cutInto_iff : CutInto separators s parts ↔ parts = pieces separators.contains s :=
  ⟨fun h => (pieces_of_cutInto h).symm, fun h => h ▸ cutInto_pieces separators s⟩

end Text

namespace Macro

variable {m : Macro} {s : List Char} {value : String} {parts : List (List Char)}

/-! ### Kept parts -/

/-- The characters at which a macro cuts: its delimiters, or the dot if it has none. -/
def separators (m : Macro) : List Char := if m.delimiters = "" then ['.'] else m.delimiters.toList

/-- The macro without percent encoding, as it is written in lower case. -/
def unescaped (m : Macro) : Macro := { m with escaped := false }

/-- The macro with other digits. -/
def keeping (m : Macro) (count : Int) : Macro := { m with digits := some count }

/-- Of so many parts, the number that the digits of a macro keep; all of them if it has none. -/
def keptOf (m : Macro) (available : Nat) : Nat := m.digits.elim available fun count => min count.toNat available

/-- The parts in the order in which a macro takes them. -/
def turned (m : Macro) (parts : List (List Char)) : List (List Char) := if m.reverse then parts.reverse else parts

theorem pos_of_readCount {run : List Char} {count : Int} (h : readCount run = .ok (some count)) : 0 < count := by
  unfold readCount at h
  split at h
  · cases h
  · split at h
    · cases h
    · cases h
    · rename_i n nonzero _
      cases h
      exact Int.natCast_pos.mpr (Nat.pos_of_ne_zero nonzero)

/-- The digits of a macro that is read are not zero. -/
theorem digits_of_read (h : read s = .ok m) : ∀ count ∈ m.digits, 0 < count := by
  intro count hm
  unfold read at h
  split at h
  · rename_i c rest
    split at h
    · unfold readTransformers at h
      dsimp only at h
      split at h
      · cases hc : readCount (rest.takeWhile isDigit) with
        | error e =>
          rw [hc] at h
          cases h
        | ok digits =>
          rw [hc] at h
          cases h
          exact pos_of_readCount (hc.trans (congrArg Except.ok hm))
      · cases h
    · cases h
  · cases h

theorem lastParts_of_pos {count : Int} (h : 0 < count) (parts : List (List Char)) : lastParts count parts = parts.rtake count.toNat := by
  unfold lastParts List.rtake
  rw [if_pos h]
  split
  · rfl
  · rw [Nat.sub_eq_zero_of_le (by omega), List.drop_zero]

theorem keptParts_of_none (h : m.digits = none) (s : List Char) : m.keptParts s = m.turned (pieces m.separators.contains s) := by
  unfold keptParts
  rw [h]
  rfl

theorem keptParts_of_some {count : Int} (h : m.digits = some count) (pos : 0 < count) (s : List Char) :
    m.keptParts s = (m.turned (pieces m.separators.contains s)).rtake count.toNat := by
  unfold keptParts
  rw [h]
  exact lastParts_of_pos pos _

theorem length_turned (m : Macro) (parts : List (List Char)) : (m.turned parts).length = parts.length := by
  unfold turned
  split
  · exact List.length_reverse
  · rfl

/-- Without encoding, the parts that a macro keeps are put together with dots between them. -/
theorem transform_unescaped (m : Macro) (value : String) :
    m.unescaped.transform value = String.ofList (joined ['.'] (m.keptParts value.toList)) := rfl

/-- The parts that are kept are the last ones, as many as the digits say. -/
theorem transform_parts (digits : ∀ count ∈ m.digits, 0 < count) (cut : CutInto m.separators value.toList parts) :
    m.unescaped.transform value = String.ofList (joined ['.'] ((m.turned parts).rtake (m.keptOf parts.length))) := by
  have kept : m.keptParts value.toList = (m.turned parts).rtake (m.keptOf parts.length) := by
    rw [← length_turned m, keptOf, List.rtake]
    cases hd : m.digits with
    | none =>
      rw [keptParts_of_none hd, ← cutInto_iff.mp cut, Option.elim_none, Nat.sub_self, List.drop_zero]
    | some count =>
      rw [keptParts_of_some hd (digits count hd), ← cutInto_iff.mp cut, Option.elim_some, List.rtake]
      congr 1
      omega
  rw [transform_unescaped, kept]

/-! ### Laws -/

/-- Parts that have been put together are cut to the same parts again, if the dot is a separator. -/
theorem pieces_joined_kept {separators s : List Char} (dot : '.' ∈ separators) {kept : List (List Char)}
    (hk : kept ⊆ pieces separators.contains s) (ne : kept ≠ []) : pieces separators.contains (joined ['.'] kept) = kept := by
  rw [pieces_joined (List.contains_iff_mem.mpr dot) fun part hp => not_of_mem_pieces (hk hp), if_neg ne]

/-- A text comes back when the parts between its dots are put together. -/
theorem joined_pieces_default (default : m.delimiters = "") (s : List Char) :
    joined ['.'] (pieces m.separators.contains s) = s := by
  rw [separators, if_pos default]
  exact joined_pieces (fun d hd => by simpa using hd) s

/-- A macro that says nothing changes nothing. -/
theorem transform_default (whole : m.digits = none) (straight : m.reverse = false) (default : m.delimiters = "") (value : String) :
    m.unescaped.transform value = value := by
  have kept : m.keptParts value.toList = pieces m.separators.contains value.toList := by
    rw [keptParts_of_none whole, turned, straight]
    rfl
  rw [transform_unescaped, kept, joined_pieces_default default, String.ofList_toList]

/-- To turn the parts round twice changes nothing. -/
theorem transform_turned_twice (whole : m.digits = none) (turns : m.reverse = true) (default : m.delimiters = "") (value : String) :
    m.unescaped.transform (m.unescaped.transform value) = value := by
  have kept : ∀ s, m.keptParts s = (pieces m.separators.contains s).reverse := by
    intro s
    rw [keptParts_of_none whole, turned, turns]
    rfl
  have dot : '.' ∈ m.separators := by
    rw [separators, if_pos default]
    exact List.mem_singleton_self _
  have again : pieces m.separators.contains (joined ['.'] (pieces m.separators.contains value.toList).reverse) =
      (pieces m.separators.contains value.toList).reverse :=
    pieces_joined_kept dot (fun _ => List.mem_reverse.mp) (mt List.reverse_eq_nil_iff.mp (pieces_ne_nil _ _))
  rw [transform_unescaped, transform_unescaped, String.toList_ofList, kept, kept, again, List.reverse_reverse,
    joined_pieces_default default, String.ofList_toList]

theorem rtake_rtake (a b : Nat) (parts : List (List Char)) : (parts.rtake a).rtake b = parts.rtake (min a b) := by
  simp only [List.rtake_eq_reverse_take_reverse, List.reverse_reverse, List.take_take, Nat.min_comm]

theorem transform_keeping {a : Int} (pos : 0 < a) (straight : m.reverse = false) (value : String) :
    (m.keeping a).unescaped.transform value =
      String.ofList (joined ['.'] ((pieces m.separators.contains value.toList).rtake a.toNat)) := by
  have kept := keptParts_of_some (m := m.keeping a) rfl pos value.toList
  rw [turned, show (m.keeping a).reverse = false from straight] at kept
  rw [transform_unescaped, kept]
  rfl

/-- Digits after digits keep as many parts as the smaller number, if the parts can be cut again. -/
theorem transform_keeping_dotted {a b : Int} (ha : 0 < a) (hb : 0 < b) (straight : m.reverse = false) (dot : '.' ∈ m.separators)
    (value : String) :
    (m.keeping b).unescaped.transform ((m.keeping a).unescaped.transform value) = (m.keeping (min a b)).unescaped.transform value := by
  have filled : 0 < (pieces m.separators.contains value.toList).length := List.length_pos_iff.mpr (pieces_ne_nil _ _)
  have ne : (pieces m.separators.contains value.toList).rtake a.toNat ≠ [] := by
    rw [← List.length_pos_iff, List.rtake, List.length_drop]
    omega
  have held : (pieces m.separators.contains value.toList).rtake a.toNat ⊆ pieces m.separators.contains value.toList :=
    List.drop_subset _ _
  have smaller : (min a b).toNat = min a.toNat b.toNat := by omega
  rw [transform_keeping ha straight, transform_keeping hb straight, transform_keeping (by omega) straight, String.toList_ofList,
    pieces_joined_kept dot held ne, rtake_rtake, smaller]

/-- Parts that have been put together with dots are one part, if the dot is no separator. -/
theorem transform_keeping_undotted {a b : Int} (ha : 0 < a) (hb : 0 < b) (straight : m.reverse = false) (undotted : '.' ∉ m.separators)
    (value : String) :
    (m.keeping b).unescaped.transform ((m.keeping a).unescaped.transform value) = (m.keeping a).unescaped.transform value := by
  have plain : ∀ c ∈ joined ['.'] ((pieces m.separators.contains value.toList).rtake a.toNat), m.separators.contains c = false := by
    intro c hc
    rcases mem_joined hc with dot | ⟨part, hp, hc⟩
    · rw [List.mem_singleton.mp dot]
      simpa using undotted
    · exact not_of_mem_pieces (List.mem_of_mem_drop hp) c hc
  have single : ∀ part : List Char, [part].rtake b.toNat = [part] := by
    intro part
    rw [List.rtake, List.length_singleton, show 1 - b.toNat = 0 by omega, List.drop_zero]
  rw [transform_keeping ha straight, transform_keeping hb straight, String.toList_ofList, pieces_of_forall_not plain, single]
  rfl

/-- A text of separators is cut to parts without characters. -/
theorem transform_keeping_separators {a : Int} {c : Char} (ha : 0 < a) (straight : m.reverse = false) (hc : c ∈ m.separators) {n : Nat}
    (hn : a.toNat ≤ n + 1) :
    (m.keeping a).unescaped.transform (String.ofList (List.replicate n c)) = String.ofList (List.replicate (a.toNat - 1) '.') := by
  have cut : ∀ n, pieces m.separators.contains (List.replicate n c) = List.replicate (n + 1) [] := by
    intro n
    induction n with
    | zero => rfl
    | succ n ih =>
      rw [List.replicate_succ, pieces, if_pos (List.contains_iff_mem.mpr hc), ih]
      rfl
  have dots : ∀ n, joined ['.'] (List.replicate (n + 1) []) = List.replicate n '.' := by
    intro n
    induction n with
    | zero => rfl
    | succ n ih => exact congrArg ('.' :: ·) ih
  obtain ⟨k, hk⟩ : ∃ k, a.toNat = k + 1 := ⟨a.toNat - 1, by omega⟩
  rw [transform_keeping ha straight, String.toList_ofList, cut, List.rtake, List.length_replicate, List.drop_replicate, hk,
    show n + 1 - (n + 1 - (k + 1)) = k + 1 by omega, dots, Nat.add_sub_cancel]

theorem separators_ne_nil (m : Macro) : m.separators ≠ [] := by
  unfold separators
  split
  · exact List.cons_ne_nil _ _
  · exact mt String.toList_eq_nil_iff.mp ‹_›

/-- Digits after digits keep as many parts of every text as the smaller number just if the dot is a separator, or there is
nothing left to take away. -/
theorem transform_keeping_iff {a b : Int} (ha : 0 < a) (hb : 0 < b) (straight : m.reverse = false) :
    (∀ value, (m.keeping b).unescaped.transform ((m.keeping a).unescaped.transform value) =
      (m.keeping (min a b)).unescaped.transform value) ↔ '.' ∈ m.separators ∨ a ≤ b := by
  by_cases dot : '.' ∈ m.separators
  · exact iff_of_true (transform_keeping_dotted ha hb straight dot) (.inl dot)
  rw [or_iff_right dot]
  constructor
  · intro h
    by_contra more
    obtain ⟨c, hc⟩ := List.exists_mem_of_ne_nil _ m.separators_ne_nil
    have kept := h (String.ofList (List.replicate a.toNat c))
    rw [transform_keeping_undotted ha hb straight dot, Int.min_eq_right (by omega),
      transform_keeping_separators ha straight hc (by omega), transform_keeping_separators hb straight hc (by omega)] at kept
    have length := congrArg (·.toList.length) kept
    simp at length
    omega
  · intro fewer value
    rw [transform_keeping_undotted ha hb straight dot, Int.min_eq_left fewer]

/-! ### Letters in upper case -/

/-- A macro in upper case encodes what the one in lower case makes of a text. -/
theorem transform_escaped (h : m.escaped = true) (value : String) :
    m.transform value = String.ofList (percentEncoded (m.unescaped.transform value).toList) := by
  rw [transform_unescaped, String.toList_ofList, transform, h]
  rfl

theorem readTransformers_unescaped {letter : Letter} {escaped : Bool} (h : readTransformers letter escaped s = .ok m) :
    m.escaped = escaped ∧ readTransformers letter false s = .ok m.unescaped := by
  unfold readTransformers at h ⊢
  dsimp only at h ⊢
  split at h
  · cases hc : readCount (s.takeWhile isDigit) with
    | error e =>
      rw [hc] at h
      cases h
    | ok digits =>
      rw [hc] at h
      cases h
      exact ⟨rfl, rfl⟩
  · cases h

theorem isUpper_toLower (c : Char) : c.toLower.isUpper = false := by
  by_cases ascii : c.toNat < 128
  · exact forall_ascii (p := fun c => c.toLower.isUpper = false) (by decide) ascii
  · rw [toLower_of_not_ascii ascii, ← Bool.not_eq_true]
    intro upper
    unfold Char.isUpper at upper
    have bound : c.toNat ≤ 90 := (of_decide_eq_true upper).2
    omega

/-- The letter in lower case makes the macro that encodes nothing. Only the dotted capital of the letter i has no lower case of
one character. -/
theorem read_unescaped {c : Char} {rest : List Char} (h : read ('{' :: c :: rest) = .ok m) (letter : c ≠ 'İ') :
    m.escaped = c.isUpper ∧ read ('{' :: c.toLower :: rest) = .ok m.unescaped := by
  have fixed : c.toLower.toLower = c.toLower := apply_toLower Char.toLower (by decide) c
  have lowerCase : ∀ found, letter? c = some found → found.2 = c.isUpper ∧ letter? c.toLower = some (found.1, false) := by
    intro found hc
    unfold letter? at hc ⊢
    rw [fixed, isUpper_toLower]
    split at hc
    · cases hc
      exact ⟨rfl, rfl⟩
    · rw [if_neg letter] at hc
      split at hc
      · rename_i foreign
        cases hc
        rw [Bool.or_eq_true, decide_eq_true_eq, decide_eq_true_eq] at foreign
        rcases foreign with rfl | rfl <;> decide
      · cases hc
  rw [read] at h ⊢
  split at h
  · rename_i hc
    obtain ⟨upper, lower⟩ := lowerCase _ hc
    obtain ⟨escaped, unescaped⟩ := readTransformers_unescaped h
    rw [lower]
    exact ⟨escaped.trans upper, unescaped⟩
  · cases h

/-! ### What a macro makes of a text -/

/-- What a macro, read from a text, makes of the text of its fact. -/
structure Reshapes (s : List Char) (m : Macro) (value : String) : Prop where
  /-- The digits of a macro are not zero. -/
  positive : ∀ count ∈ m.digits, 0 < count
  /-- Without encoding: the last of the parts, as many as the digits say, turned round before, with dots between them. -/
  parts : ∃ parts, (∀ cut, CutInto m.separators value.toList cut ↔ cut = parts) ∧
    m.unescaped.transform value = String.ofList (joined ['.'] ((m.turned parts).rtake (m.keptOf parts.length)))
  /-- The letter tells whether the macro encodes, and in lower case it makes the same macro without encoding. -/
  letter : ∀ c rest, s = '{' :: c :: rest → c ≠ 'İ' → m.escaped = c.isUpper ∧ read ('{' :: c.toLower :: rest) = .ok m.unescaped
  /-- A macro that does not encode is the one without encoding. -/
  plain : m.escaped = false → m.transform value = m.unescaped.transform value
  /-- A macro that says nothing changes nothing. -/
  unchanged : m.digits = none → m.reverse = false → m.delimiters = "" → m.unescaped.transform value = value
  /-- To turn all parts between dots round twice changes nothing. -/
  turnedTwice : m.digits = none → m.reverse = true → m.delimiters = "" → m.unescaped.transform (m.unescaped.transform value) = value
  /-- Digits after digits keep as many parts as the smaller number. That is so for the default delimiters and all others that
  hold the dot; for the rest, only if the second number is not the smaller one. -/
  keptTwice : ∀ a b, 0 < a → 0 < b → m.reverse = false →
    ((∀ text, (m.keeping b).unescaped.transform ((m.keeping a).unescaped.transform text) =
      (m.keeping (min a b)).unescaped.transform text) ↔ '.' ∈ m.separators ∨ a ≤ b)
  /-- A macro that encodes writes what it would make without encoding in unreserved characters and groups, and decoding gives
  it back. -/
  encoded : m.escaped = true → m.transform value = String.ofList (percentEncoded (m.unescaped.transform value).toList) ∧
    IsPercentText (m.transform value).toList ∧ (∀ c ∈ (m.transform value).toList, c.toNat < 128) ∧
    percentDecoded? (m.transform value).toList = some (m.unescaped.transform value)

end Macro

namespace Evaluation

/-- A macro without transformers leaves the text of its fact as it is. -/
theorem transform_plain (letter : Letter) (value : String) : (⟨letter, none, false, "", false⟩ : Macro).transform value = value :=
  Macro.transform_default (m := ⟨letter, none, false, "", false⟩) rfl rfl rfl value

/-- A single macro that says nothing stands for its fact. -/
theorem expand_plain {explanation : Bool} {domain macroString : String} {letter : Letter}
    (read : readTokens explanation macroString.toList = .ok [.expansion ⟨letter, none, false, "", false⟩]) :
    expand explanation domain macroString = fact explanation domain letter := by
  unfold expand
  rw [read]
  show (fact explanation domain letter >>= fun value => pure ((_ : Macro).transform value ++ "")) = _
  simp only [transform_plain, String.append_empty, bind_pure]

/-- The macro for the domain stands for the domain, without a question. -/
theorem inquiry_expand_domain (explanation : Bool) (domain : String) (context : Context) (counters : Counters) :
    (expand explanation domain "%{d}").inquiry context counters = .done (.ok domain, counters) := by
  have read : readTokens explanation "%{d}".toList = .ok [.expansion ⟨.domain, none, false, "", false⟩] := by
    cases explanation <;> rfl
  rw [expand_plain read]
  rfl

end Evaluation

namespace Macro

variable {m : Macro} {s : List Char}

/-- Whatever macro is read, this is what it makes of any text; and the macro for the domain alone stands for the domain. -/
theorem reshapes_of_read (h : read s = .ok m) (value : String) :
    Reshapes s m value ∧ ∀ explanation context counters,
      (Evaluation.expand explanation value "%{d}").inquiry context counters = .done (.ok value, counters) := by
  have digits := digits_of_read h
  refine ⟨?_, fun explanation context counters => Evaluation.inquiry_expand_domain explanation value context counters⟩
  refine { positive := digits, parts := ⟨_, fun cut => cutInto_iff, transform_parts digits (cutInto_pieces _ _)⟩,
           letter := ?letter, plain := ?plain, unchanged := ?unchanged, turnedTwice := ?turnedTwice, keptTwice := ?keptTwice,
           encoded := ?encoded }
  case letter =>
    rintro c rest rfl letter
    exact read_unescaped h letter
  case plain =>
    intro plain
    rw [show m.unescaped = m by rw [unescaped, ← plain]]
  case unchanged => exact fun whole straight default => transform_default whole straight default value
  case turnedTwice => exact fun whole turns default => transform_turned_twice whole turns default value
  case keptTwice => exact fun a b ha hb straight => transform_keeping_iff ha hb straight
  case encoded =>
    intro escaped
    have written := transform_escaped escaped value
    have text : (m.transform value).toList = percentEncoded (m.unescaped.transform value).toList := by
      rw [written, String.toList_ofList]
    have groups : IsPercentText (m.transform value).toList := text ▸ isPercentText_encoded _
    refine ⟨written, groups, groups.ascii, ?_⟩
    rw [text, percentDecoded?_encoded, String.ofList_toList]

/-- The last two parts of a text between hyphens, turned round and encoded. -/
theorem reshapes_upperHelo : ∃ m, read "{H2r-}".toList = .ok m ∧
    m.unescaped.transform "x y-b-c" = "b.x y" ∧ m.transform "x y-b-c" = "b.x%20y" ∧
    percentDecoded? "b.x%20y".toList = some "b.x y" := by
  have h : read "{H2r-}".toList = .ok ⟨.helo, some 2, true, "-", true⟩ := by decide
  obtain ⟨laws, -⟩ := reshapes_of_read h "x y-b-c"
  obtain ⟨parts, unique, made⟩ := laws.parts
  obtain ⟨written, -, -, back⟩ := laws.encoded rfl
  have cut : pieces ['-'].contains "x y-b-c".toList = parts := (unique _).mp (cutInto_pieces _ _)
  have kept : (unescaped ⟨.helo, some 2, true, "-", true⟩).transform "x y-b-c" = "b.x y" := by
    rw [made, ← cut]
    decide
  rw [kept] at written back
  have encoded : String.ofList (percentEncoded "b.x y".toList) = "b.x%20y" := by decide
  rw [encoded] at written
  rw [written] at back
  exact ⟨_, h, kept, written, back⟩

end Macro

end SenderPolicy
