import SenderPolicy.Text.Blank
import SenderPolicy.Text.Folded

/-! Patterns for the start of a text. A matcher tries the ways to match in an order of preference: alternatives from
the first on, and long runs before short ones. What each way leaves of the text is listed in this order, so to go back
to another way is to go on in the list, and the match is the first way that there is. -/

namespace SenderPolicy

open Text

inductive Pattern where
  | empty
  /-- One character of a class. -/
  | one (p : Char → Bool)
  /-- A run of characters of a class. -/
  | run (p : Char → Bool)
  /-- The end of a word. White space behind it is not taken. -/
  | wordEnd
  | seq (first second : Pattern)
  | either (first second : Pattern)

namespace Pattern

/-- What the runs of a class at the start of a text leave of it, the longest one first. -/
def runRests (p : Char → Bool) : List Char → List (List Char)
  | [] => [[]]
  | c :: rest => (if p c then runRests p rest else []) ++ [c :: rest]

/-- What the ways to match leave of a text. -/
def rests : Pattern → List Char → List (List Char)
  | empty, s => [s]
  | one _, [] => []
  | one p, c :: rest => if p c then [rest] else []
  | run p, s => runRests p s
  | wordEnd, s => if s.head?.all isBlank then [s] else []
  | seq first second, s => (first.rests s).flatMap second.rests
  | either first second, s => first.rests s ++ second.rests s

/-- What a match leaves of a text, if the text starts with one. -/
def leaves? (pattern : Pattern) (s : List Char) : Option (List Char) := (pattern.rests s).head?

/-! ### Patterns built from others -/

/-- A word in exactly its letters. -/
def exactly : (word : List Char) → Pattern
  | [] => empty
  | w :: word => seq (one (· == w)) (exactly word)

/-- A word of lower-case letters and digits when case is ignored. -/
def folded : (word : List Char) → Pattern
  | [] => empty
  | w :: word => seq (one (foldsTo w)) (folded word)

/-- The first of some patterns that matches. -/
def anyOf : List Pattern → Pattern
  | [] => one fun _ => false
  | pattern :: rest => either pattern (anyOf rest)

/-- A pattern, or nothing if the text does not go on otherwise. -/
def optional (pattern : Pattern) : Pattern := either pattern empty

section
variable {p : Char → Bool} {first second third : Pattern} {s : List Char} {c : Char}

/-! ### Matches -/

theorem leaves?_wordEnd : wordEnd.leaves? s = if s.head?.all isBlank then some s else none := by
  unfold leaves? rests
  split <;> rfl

theorem leaves?_seq : (seq first second).leaves? s = (first.rests s).findSome? second.leaves? := by
  simp only [leaves?, rests, List.head?_flatMap]
  rfl

@[simp] theorem leaves?_seq_empty : (seq empty second).leaves? s = second.leaves? s := by
  simp [leaves?, rests]

@[simp] theorem leaves?_seq_one_nil : (seq (one p) second).leaves? [] = none := rfl

@[simp] theorem leaves?_seq_one_cons :
    (seq (one p) second).leaves? (c :: s) = if p c then second.leaves? s else none := by
  simp only [leaves?, rests]
  split <;> simp

theorem leaves?_seq_either :
    (seq (either first second) third).leaves? s = ((seq first third).leaves? s).or ((seq second third).leaves? s) := by
  simp [leaves?, rests]

theorem leaves?_seq_seq : (seq (seq first second) third).leaves? s = (seq first (seq second third)).leaves? s := by
  simp only [leaves?, rests, List.flatMap_assoc]

theorem leaves?_seq_exactly (word : List Char) :
    (seq (exactly word) second).leaves? s = if word.isPrefixOf s then second.leaves? (s.drop word.length) else none := by
  induction word generalizing s with
  | nil => simp [exactly]
  | cons w word ih =>
    rw [exactly, leaves?_seq_seq]
    cases s with
    | nil => rfl
    | cons c s =>
      rw [leaves?_seq_one_cons, ih]
      by_cases hc : c = w
      · simp [hc]
      · simp [hc, Ne.symm hc]

theorem leaves?_seq_folded (word : List Char) :
    (seq (folded word) second).leaves? s = (takeFolded word s).bind fun (_, rest) => second.leaves? rest := by
  induction word generalizing s with
  | nil => simp [folded, takeFolded]
  | cons w word ih =>
    rw [folded, leaves?_seq_seq]
    cases s with
    | nil => rfl
    | cons c s =>
      rw [leaves?_seq_one_cons, ih, takeFolded]
      split
      · rw [Option.bind_map]
        rfl
      · rfl

theorem leaves?_seq_anyOf (patterns : List Pattern) :
    (seq (anyOf patterns) second).leaves? s = patterns.findSome? fun pattern => (seq pattern second).leaves? s := by
  induction patterns with
  | nil => cases s <;> simp [anyOf]
  | cons pattern rest ih =>
    rw [anyOf, leaves?_seq_either, ih, List.findSome?_cons]
    cases (seq pattern second).leaves? s <;> rfl

/-! ### Runs -/

@[simp] theorem leaves?_run : (run p).leaves? s = some (s.dropWhile p) := by
  show (runRests p s).head? = _
  induction s with
  | nil => rfl
  | cons c s ih =>
    rw [runRests, List.dropWhile_cons, List.head?_append]
    split
    · rw [ih]
      rfl
    · rfl

/-- If what follows a run does not start within it, only the longest run comes into question. -/
theorem leaves?_seq_run (h : ∀ c rest, p c = true → second.leaves? (c :: rest) = none) :
    (seq (run p) second).leaves? s = second.leaves? (s.dropWhile p) := by
  rw [leaves?_seq]
  show (runRests p s).findSome? second.leaves? = _
  induction s with
  | nil => exact List.findSome?_singleton
  | cons c s ih =>
    rw [runRests, List.dropWhile_cons, List.findSome?_append, List.findSome?_singleton]
    split
    · rename_i hc
      rw [ih, h c s hc, Option.or_none]
    · rfl

/-! ### Lengths -/

/-- The number of characters that every match takes. -/
def minLength : Pattern → Nat
  | empty | run _ | wordEnd => 0
  | one _ => 1
  | seq first second => first.minLength + second.minLength
  | either first second => min first.minLength second.minLength

theorem length_runRests_le {rest : List Char} (h : rest ∈ runRests p s) : rest.length ≤ s.length := by
  induction s with
  | nil => simp_all [runRests]
  | cons c s ih =>
    rw [runRests, List.mem_append, List.mem_singleton] at h
    rcases h with h | rfl
    · split at h
      · exact Nat.le_succ_of_le (ih h)
      · cases h
    · exact Nat.le_refl _

theorem length_of_mem_rests {pattern : Pattern} {rest : List Char} (h : rest ∈ pattern.rests s) :
    rest.length + pattern.minLength ≤ s.length := by
  induction pattern generalizing s rest with
  | empty =>
    rw [List.mem_singleton.mp h]
    exact Nat.le_refl _
  | one p =>
    cases s with
    | nil => cases h
    | cons c s =>
      rw [rests] at h
      split at h
      · rw [List.mem_singleton.mp h]
        exact Nat.le_refl _
      · cases h
  | run p => exact length_runRests_le h
  | wordEnd =>
    rw [rests] at h
    split at h
    · rw [List.mem_singleton.mp h]
      exact Nat.le_refl _
    · cases h
  | seq first second ihf ihs =>
    obtain ⟨between, hf, hs⟩ := List.mem_flatMap.mp h
    have taken := ihf hf
    have takenBehind := ihs hs
    rw [minLength]
    omega
  | either first second ihf ihs =>
    rw [minLength]
    rcases List.mem_append.mp h with h | h
    · have taken := ihf h
      omega
    · have taken := ihs h
      omega

theorem length_of_leaves? {pattern : Pattern} {rest : List Char} (h : pattern.leaves? s = some rest) :
    rest.length + pattern.minLength ≤ s.length :=
  length_of_mem_rests (List.mem_of_mem_head? h)

end

end Pattern

end SenderPolicy
