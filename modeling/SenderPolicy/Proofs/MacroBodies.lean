import Mathlib.Data.Bool.AllAny
import SenderPolicy.Proofs.AddressText
import SenderPolicy.Macro.Reader

/-! What stands between the braces of a macro: a letter, digits, perhaps a mark that the parts are turned round, and delimiters.
The reader cuts a body at the first character that cannot belong to the part before, so a body in these parts is cut into just
them. -/

namespace SenderPolicy

open Text

/-- The digits of decimal numbers. -/
def Text.decimalDigits : List Char := ['0', '1', '2', '3', '4', '5', '6', '7', '8', '9']

namespace Macro

/-! ### The grammar of bodies -/

/-- The letters that macros may have. -/
def letters : List Char := ['s', 'l', 'o', 'd', 'i', 'p', 'v', 'h', 'c', 'r', 't']

/-- The letters that only explanations may use. -/
def explanationLetters : List Char := ['c', 'r', 't']

/-- The mark in both cases. -/
def reverseMarks : List Char := ['r', 'R']

/-- The characters at which parts may be cut. -/
def delimiterChars : List Char := ['.', '-', '+', ',', '/', '_', '=']

/-- What may stand between braces, given the marks that may be used: a letter in either case, digits of which not all are zero,
perhaps a mark, and delimiters. -/
inductive IsBody (marks : List Char) (explanation : Bool) : List Char → Prop
  | mk {c : Char} {digits mark delimiters : List Char} (letter : c.toLower ∈ letters)
      (allowed : c.toLower ∈ explanationLetters → explanation = true) (decimal : ∀ d ∈ digits, d ∈ decimalDigits)
      (nonzero : digits ≠ [] → ∃ d ∈ digits, d ≠ '0') (marked : mark = [] ∨ ∃ r ∈ marks, mark = [r])
      (delimited : ∀ d ∈ delimiters, d ∈ delimiterChars) : IsBody marks explanation (c :: (digits ++ (mark ++ delimiters)))

/-! ### Parts -/

variable {c : Char} {digits mark delimiters rest body : List Char}

/-- Behind its letter, a body has only digits, marks and delimiters. -/
theorem IsBody.subset {marks : List Char} {explanation : Bool} (h : IsBody marks explanation body) :
    ∀ d ∈ body.tail, d ∈ decimalDigits ++ (marks ++ delimiterChars) := by
  obtain @⟨c, digits, mark, delimiters, -, -, decimal, -, marked, delimited⟩ := h
  have markIn : ∀ d ∈ mark, d ∈ marks := by
    rcases marked with rfl | ⟨r, hr, rfl⟩
    · exact fun _ => nofun
    · intro d hd
      exact List.mem_singleton.mp hd ▸ hr
  intro d hd
  rw [List.tail_cons, List.mem_append, List.mem_append] at hd
  rw [List.mem_append, List.mem_append]
  exact hd.imp (decimal d) (Or.imp (markIn d) (delimited d))

theorem isDelimiter_iff : isDelimiter c = true ↔ c ∈ delimiterChars := List.contains_iff_mem

/-- What stands behind the letter, in the parts that the reader takes it in. -/
structure Parts (digits mark delimiters : List Char) : Prop where
  decimal : ∀ d ∈ digits, isDigit d = true
  marked : mark = [] ∨ ∃ r ∈ reverseMarks, mark = [r]
  delimited : ∀ d ∈ delimiters, isDelimiter d = true

/-- Parts before some text, each of them as long as can be. -/
structure Cut (digits mark delimiters rest : List Char) : Prop extends Parts digits mark delimiters where
  behindDigits : ∀ c ∈ (mark ++ (delimiters ++ rest)).head?, isDigit c = false
  behindMark : mark = [] → ∀ c ∈ (delimiters ++ rest).head?, c ∉ reverseMarks
  behindDelimiters : ∀ c ∈ rest.head?, isDelimiter c = false

theorem Parts.brace_not_mem (h : Parts digits mark delimiters) (hc : c ≠ '}') : '}' ∉ c :: (digits ++ (mark ++ delimiters)) := by
  rw [List.mem_cons, List.mem_append, List.mem_append]
  rintro (rfl | hd | hm | hd)
  · exact hc rfl
  · exact absurd (h.decimal _ hd) (by decide)
  · rcases h.marked with rfl | ⟨r, hr, rfl⟩
    · cases hm
    · rw [← List.mem_singleton.mp hm] at hr
      exact absurd hr (by decide)
  · exact absurd (h.delimited _ hd) (by decide)

/-- No character may belong to two parts, nor a brace to any. -/
theorem Parts.cut (h : Parts digits mark delimiters) : Cut digits mark delimiters ['}'] := by
  have delimiter : ∀ c ∈ delimiterChars, isDigit c = false ∧ c ∉ reverseMarks := List.all_iff_forall_prop.mp (by decide)
  have turned : ∀ r ∈ reverseMarks, isDigit r = false := List.all_iff_forall_prop.mp (by decide)
  have behind : ∀ c ∈ (delimiters ++ ['}']).head?, isDigit c = false ∧ c ∉ reverseMarks := by
    cases delimiters with
    | nil =>
      intro c hc
      cases hc
      decide
    | cons d rest =>
      intro c hc
      cases hc
      exact delimiter d (isDelimiter_iff.mp (h.delimited d List.mem_cons_self))
  refine ⟨h, ?_, fun _ c hc => (behind c hc).2, fun c hc => by cases hc; decide⟩
  rcases h.marked with rfl | ⟨r, hr, rfl⟩
  · exact fun c hc => (behind c hc).1
  · intro c hc
    cases hc
    exact turned r hr

theorem head?_dropWhile_append {p : Char → Bool} (s : List Char) (hc : p c = false) :
    ∀ d ∈ (s.dropWhile p ++ [c]).head?, p d = false := by
  induction s with
  | nil =>
    intro d hd
    cases hd
    exact hc
  | cons d s ih =>
    rw [List.dropWhile_cons]
    split
    · exact ih
    · rename_i hd
      intro e he
      cases he
      exact Bool.eq_false_iff.mpr hd

/-- Every text before a brace can be cut. -/
theorem exists_cut (s : List Char) : ∃ digits mark delimiters rest,
    s = digits ++ (mark ++ (delimiters ++ rest)) ∧ Cut digits mark delimiters (rest ++ ['}']) := by
  obtain ⟨mark, tail, marked, hm, behindMark⟩ : ∃ mark tail, s.dropWhile isDigit = mark ++ tail ∧
      (mark = [] ∨ ∃ r ∈ reverseMarks, mark = [r]) ∧ (mark = [] → ∀ c ∈ (tail ++ ['}']).head?, c ∉ reverseMarks) := by
    cases s.dropWhile isDigit with
    | nil => exact ⟨[], [], rfl, .inl rfl, fun _ c hc => by cases hc; decide⟩
    | cons d tail =>
      by_cases hd : d ∈ reverseMarks
      · exact ⟨[d], tail, rfl, .inr ⟨d, hd, rfl⟩, nofun⟩
      · exact ⟨[], d :: tail, rfl, .inl rfl, fun _ e he => by cases he; exact hd⟩
  have whole : tail.takeWhile isDelimiter ++ tail.dropWhile isDelimiter = tail := List.takeWhile_append_dropWhile
  refine ⟨s.takeWhile isDigit, mark, tail.takeWhile isDelimiter, tail.dropWhile isDelimiter, ?_, ?_⟩
  · rw [whole, ← marked, List.takeWhile_append_dropWhile]
  · have behindDigits := head?_dropWhile_append (p := isDigit) s (c := '}') (by decide)
    rw [marked, List.append_assoc] at behindDigits
    refine ⟨⟨fun d hd => List.all_eq_true.mp List.all_takeWhile d hd, hm,
      fun d hd => List.all_eq_true.mp List.all_takeWhile d hd⟩, ?_, ?_, head?_dropWhile_append tail (by decide)⟩
    · rwa [← List.append_assoc (tail.takeWhile isDelimiter), whole]
    · rwa [← List.append_assoc, whole]

/-! ### Reading parts -/

theorem span_of_head {p : Char → Bool} {run rest : List Char} (h : ∀ c ∈ run, p c = true) (hr : ∀ c ∈ rest.head?, p c = false) :
    (run ++ rest).takeWhile p = run ∧ (run ++ rest).dropWhile p = rest := by
  rw [List.takeWhile_append_of_pos h, List.dropWhile_append_of_pos h]
  cases rest with
  | nil => simp
  | cons c rest => simp [hr c rfl]

theorem reverseMark_eq (hm : mark = [] ∨ ∃ r ∈ reverseMarks, mark = [r])
    (hr : mark = [] → ∀ c ∈ rest.head?, c ∉ reverseMarks) : reverseMark (mark ++ rest) = (!mark.isEmpty, rest) := by
  have first : ∀ (c : Char) (s : List Char), reverseMark (c :: s) = if c ∈ reverseMarks then (true, s) else (false, c :: s) := by
    intro c s
    simp [reverseMark, reverseMarks]
  rcases hm with rfl | ⟨r, hm, rfl⟩
  · cases rest with
    | nil => rfl
    | cons c rest => exact (first c rest).trans (if_neg (hr rfl c rfl))
  · exact (first r rest).trans (if_pos hm)

/-- The reader finds just the parts that are as long as can be, and asks for a brace behind them. -/
theorem read_cut (h : Cut digits mark delimiters rest) :
    read ('{' :: c :: (digits ++ (mark ++ (delimiters ++ rest)))) = match letter? c with
      | some (letter, escaped) =>
        if rest.head? = some '}' then (readCount digits).map fun count =>
          ⟨letter, count, !mark.isEmpty, String.ofList delimiters, escaped⟩
        else .error .malformed
      | none => .error .malformed := by
  obtain ⟨runDigits, afterDigits⟩ := span_of_head h.decimal h.behindDigits
  obtain ⟨runDelimiters, afterDelimiters⟩ := span_of_head h.delimited h.behindDelimiters
  show (match letter? c with
    | some (letter, escaped) => readTransformers letter escaped (digits ++ (mark ++ (delimiters ++ rest)))
    | none => .error .malformed) = _
  cases letter? c with
  | none => rfl
  | some found =>
    dsimp only
    unfold readTransformers
    rw [runDigits, afterDigits, reverseMark_eq h.marked h.behindMark]
    dsimp only
    rw [afterDelimiters, runDelimiters]
    split
    · rw [if_pos List.head?_cons]
      cases readCount digits <;> rfl
    · rename_i other
      refine (if_neg fun closed => ?_).symm
      obtain ⟨tail, rfl⟩ := List.head?_eq_some_iff.mp closed
      exact other tail rfl

/-- A body in parts reads as a macro of these parts. -/
theorem read_parts (h : Parts digits mark delimiters) :
    read ('{' :: (c :: (digits ++ (mark ++ delimiters))) ++ ['}']) = match letter? c with
      | some (letter, escaped) => (readCount digits).map fun count =>
          ⟨letter, count, !mark.isEmpty, String.ofList delimiters, escaped⟩
      | none => .error .malformed := by
  have spelt : '{' :: (c :: (digits ++ (mark ++ delimiters))) ++ ['}'] = '{' :: c :: (digits ++ (mark ++ (delimiters ++ ['}']))) := by
    simp
  rw [spelt, read_cut h.cut]
  cases letter? c <;> rfl

/-- What reads as a macro, or fails for its digits only, is a body in parts. -/
theorem exists_parts_of_read (hb : '}' ∉ body) (h : read ('{' :: body ++ ['}']) ≠ .error .malformed) :
    ∃ c digits mark delimiters, body = c :: (digits ++ (mark ++ delimiters)) ∧ Parts digits mark delimiters := by
  cases body with
  | nil => exact absurd rfl h
  | cons c body =>
    obtain ⟨digits, mark, delimiters, rest, rfl, cut⟩ := exists_cut body
    cases rest with
    | nil => exact ⟨c, digits, mark, delimiters, by rw [List.append_nil], cut.toParts⟩
    | cons d rest =>
      -- the brace that closes the body is the only one, so none stands here
      have other : d ≠ '}' := by
        rintro rfl
        simp at hb
      have spelt : '{' :: (c :: (digits ++ (mark ++ (delimiters ++ d :: rest)))) ++ ['}'] =
          '{' :: c :: (digits ++ (mark ++ (delimiters ++ (d :: rest ++ ['}'])))) := by
        simp
      refine absurd ?_ h
      rw [spelt, read_cut cut]
      cases letter? c with
      | none => rfl
      | some found => exact if_neg (by simpa using other)

/-! ### Letters -/

theorem letter?_of_mem (h : c.toLower ∈ letters) :
    ∃ letter, letter? c = some (letter, c.isUpper) ∧ (letter.explanationOnly = true ↔ c.toLower ∈ explanationLetters) := by
  have known : ∀ x ∈ letters, (Letter.all.lookup x).map (·.explanationOnly) = some (decide (x ∈ explanationLetters)) :=
    List.all_iff_forall_prop.mp (by decide)
  obtain ⟨letter, hl, only⟩ := Option.map_eq_some_iff.mp (known _ h)
  refine ⟨letter, ?_, by rw [only, decide_eq_true_eq]⟩
  unfold letter?
  rw [hl]

theorem mem_of_letter? (ascii : c.toNat < 128) {letter : Letter} {escaped : Bool} (h : letter? c = some (letter, escaped)) :
    c.toLower ∈ letters := by
  unfold letter? at h
  split at h
  · rename_i hl
    obtain ⟨before, after, all, -⟩ := List.lookup_eq_some_iff.mp hl
    have mem : c.toLower ∈ Letter.all.map Prod.fst := List.mem_map.mpr ⟨_, all ▸ List.mem_append_right _ List.mem_cons_self, rfl⟩
    exact mem
  · -- what only case folding takes for a letter is outside ASCII
    split at h
    · rename_i foreign
      subst foreign
      exact absurd ascii (by decide)
    · split at h
      · rename_i foreign
        rw [Bool.or_eq_true, decide_eq_true_eq, decide_eq_true_eq] at foreign
        rcases foreign with rfl | rfl <;> exact absurd ascii (by decide)
      · cases h

end Macro

/-! ### Digits -/

namespace Text

theorem isDigit_of_mem : ∀ c ∈ decimalDigits, isDigit c = true := List.all_iff_forall_prop.mp (by decide)

theorem mem_of_isDigit {c : Char} (ascii : c.toNat < 128) (h : isDigit c = true) : c ∈ decimalDigits :=
  forall_ascii (p := fun c => isDigit c = true → c ∈ decimalDigits) (by decide) ascii h

theorem foldl_eq_zero_iff {s : List Char} (h : ∀ c ∈ s, c ∈ decimalDigits) (n : Nat) :
    (s.filterMap digit?).foldl (fun n d => 10 * n + d) n = 0 ↔ n = 0 ∧ ∀ c ∈ s, c = '0' := by
  have zero : ∀ c ∈ decimalDigits, (digit? c).map (decide <| · = 0) = some (decide (c = '0')) :=
    List.all_iff_forall_prop.mp (by decide)
  induction s generalizing n with
  | nil => simp
  | cons c s ih =>
    rw [List.forall_mem_cons] at h
    obtain ⟨d, hd, hz⟩ := Option.map_eq_some_iff.mp (zero c h.1)
    rw [decide_eq_decide] at hz
    rw [List.filterMap_cons, hd]
    dsimp only
    rw [List.foldl_cons, List.forall_mem_cons, ← and_assoc, ← hz]
    refine (ih h.2 (10 * n + d)).trans (and_congr_left' ?_)
    omega

/-- Digits write zero if each of them does. -/
theorem digitsValue_eq_zero_iff {s : List Char} (h : ∀ c ∈ s, c ∈ decimalDigits) : digitsValue s = 0 ↔ ∀ c ∈ s, c = '0' :=
  (foldl_eq_zero_iff h 0).trans (and_iff_right rfl)

end Text

namespace Macro

variable {run : List Char}

theorem readCount_of_ne_nil (hn : run ≠ []) (short : run.length ≤ maxDigits) :
    readCount run = if digitsValue run = 0 then .error .zeroDigits else .ok (some (digitsValue run)) := by
  unfold readCount readDigits
  rw [if_neg (by simpa using hn), if_neg (Nat.not_lt.mpr short)]
  cases digitsValue run <;> rfl

theorem readCount_error {x : ReadError} (short : run.length ≤ maxDigits) (h : readCount run = .error x) : x = .zeroDigits := by
  by_cases hn : run = []
  · subst hn
    cases h
  · rw [readCount_of_ne_nil hn short] at h
    split at h
    · cases h
      rfl
    · cases h

/-- Digits that are not too many can be read if one of them is not zero. -/
theorem readCount_isOk_iff (decimal : ∀ d ∈ run, d ∈ decimalDigits) (short : run.length ≤ maxDigits) :
    (∃ count, readCount run = .ok count) ↔ (run ≠ [] → ∃ d ∈ run, d ≠ '0') := by
  by_cases hn : run = []
  · subst hn
    simp [show readCount [] = .ok none from rfl]
  · have some : (∃ d ∈ run, d ≠ '0') ↔ digitsValue run ≠ 0 := by
      rw [ne_eq, digitsValue_eq_zero_iff decimal]
      push Not
      rfl
    rw [readCount_of_ne_nil hn short, some]
    by_cases hz : digitsValue run = 0 <;> simp [hz, hn]

/-- The digits of a positive number are read as the number. -/
theorem readCount_toString {n : Int} (hn : 0 < n) (short : (toString n).toList.length ≤ maxDigits) :
    readCount (toString n).toList = .ok (some n) ∧ ∀ c ∈ (toString n).toList, isDigit c = true := by
  obtain ⟨k, rfl⟩ := Int.eq_ofNat_of_zero_le (Int.le_of_lt hn)
  have written : (toString (k : Int)).toList = Nat.toDigits 10 k := Nat.toList_repr
  have digits : ∀ d < 10, digit? (Nat.digitChar d) = some d := by decide
  have value : digitsValue (Nat.toDigits 10 k) = k := foldl_toDigits (by decide) digits k
  rw [written] at short ⊢
  refine ⟨?_, fun c hc => ?_⟩
  · rw [readCount_of_ne_nil Nat.toDigits_ne_nil short, value, if_neg (by omega)]
  · obtain ⟨d, hd, rfl⟩ := exists_digit_of_mem_toDigits (by decide) c hc
    unfold isDigit
    rw [digits d hd]
    rfl

end Macro

/-! ### Reading bodies -/

/-- A text of ASCII without runs of digits that are too long to be read. -/
structure Readable (s : List Char) : Prop where
  ascii : ∀ c ∈ s, c.toNat < 128
  runs : ∀ run, run <:+: s → (∀ c ∈ run, isDigit c = true) → run.length ≤ maxDigits

theorem Readable.part {s t : List Char} (h : Readable s) (ht : t <:+: s) : Readable t :=
  ⟨fun c hc => h.ascii c (ht.subset hc), fun run hr => h.runs run (hr.trans ht)⟩

/-- Short texts of ASCII have no runs of digits that are too long. -/
theorem Readable.of_short {s : List Char} (ascii : ∀ c ∈ s, c.toNat < 128) (short : s.length ≤ maxDigits) : Readable s :=
  ⟨ascii, fun _ hr _ => Nat.le_trans hr.length_le short⟩

section
open Macro
variable {explanation : Bool} {body : List Char}

theorem Macro.Parts.of_grammar {digits mark delimiters : List Char} (decimal : ∀ d ∈ digits, d ∈ decimalDigits)
    (marked : mark = [] ∨ ∃ r ∈ reverseMarks, mark = [r]) (delimited : ∀ d ∈ delimiters, d ∈ delimiterChars) :
    Parts digits mark delimiters :=
  ⟨fun d hd => isDigit_of_mem d (decimal d hd), marked, fun d hd => isDelimiter_iff.mpr (delimited d hd)⟩

theorem Macro.IsBody.brace_not_mem (h : IsBody reverseMarks explanation body) : '}' ∉ body := by
  obtain ⟨letter, -, decimal, -, marked, delimited⟩ := h
  refine (Parts.of_grammar decimal marked delimited).brace_not_mem ?_
  rintro rfl
  exact absurd letter (by decide)

/-- What the grammar allows between braces is read. -/
theorem exists_bracedMacro (start : Nat) (hr : Readable body) (h : IsBody reverseMarks explanation body) :
    ∃ m, bracedMacro explanation start body = .ok m := by
  obtain @⟨c, digits, mark, delimiters, letter, allowed, decimal, nonzero, marked, delimited⟩ := h
  have parts := Parts.of_grammar decimal marked delimited
  obtain ⟨l, hl, only⟩ := letter?_of_mem letter
  have short : digits.length ≤ maxDigits := hr.runs digits ⟨[c], mark ++ delimiters, by simp⟩ parts.decimal
  obtain ⟨count, hc⟩ := (readCount_isOk_iff decimal short).mpr nonzero
  have permitted : (l.explanationOnly && !explanation) = false := by
    rw [Bool.and_eq_false_imp, Bool.not_eq_false']
    exact fun h => allowed (only.mp h)
  refine ⟨⟨l, count, !mark.isEmpty, String.ofList delimiters, c.isUpper⟩, ?_⟩
  unfold bracedMacro
  rw [read_parts parts, hl, hc]
  dsimp only [Except.map]
  rw [permitted]
  rfl

/-- What is read between braces is in the grammar, and all other is an error at a position. -/
theorem bracedMacro_sound (explanation : Bool) (start : Nat) (hr : Readable body) (hb : '}' ∉ body) :
    ((∃ m, bracedMacro explanation start body = .ok m) ∧ IsBody reverseMarks explanation body) ∨
      bracedMacro explanation start body = .error (.position (start + 2)) := by
  by_cases malformed : Macro.read ('{' :: body ++ ['}']) = .error .malformed
  · right
    unfold bracedMacro
    rw [malformed]
  · obtain ⟨c, digits, mark, delimiters, rfl, parts⟩ := exists_parts_of_read hb malformed
    have decimal : ∀ d ∈ digits, d ∈ decimalDigits := fun d hd =>
      mem_of_isDigit (hr.ascii d (List.mem_cons_of_mem _ (List.mem_append_left _ hd))) (parts.decimal d hd)
    have short : digits.length ≤ maxDigits := hr.runs digits ⟨[c], mark ++ delimiters, by simp⟩ parts.decimal
    unfold bracedMacro
    rw [read_parts parts] at malformed ⊢
    cases hl : letter? c with
    | none =>
      rw [hl] at malformed
      exact absurd rfl malformed
    | some found =>
      obtain ⟨letter, escaped⟩ := found
      have mem := mem_of_letter? (hr.ascii c List.mem_cons_self) hl
      obtain ⟨_, known, only⟩ := letter?_of_mem mem
      cases hl.symm.trans known
      cases hc : readCount digits with
      | error x =>
        right
        rw [readCount_error short hc]
        rfl
      | ok count =>
        dsimp only [Except.map]
        cases banned : letter.explanationOnly && !explanation with
        | true =>
          right
          rfl
        | false =>
          rw [Bool.and_eq_false_imp, Bool.not_eq_false'] at banned
          exact .inl ⟨⟨_, rfl⟩, .mk mem (fun h => banned (only.mpr h)) decimal
            ((readCount_isOk_iff decimal short).mp ⟨count, hc⟩) parts.marked
            fun d hd => isDelimiter_iff.mp (parts.delimited d hd)⟩

end

end SenderPolicy
