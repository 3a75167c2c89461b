import Mathlib.Tactic.SplitIfs
import SenderPolicy.Macro.Reader
import SenderPolicy.Proofs.Pieces

/-! How the reader of macro strings goes on. One character takes it to another state, or closes a macro, or makes the text no
macro string. What a text is read as follows from its first character and the rest (`turn_of_scanTokens`), so what each
character keeps is kept to the end. -/

namespace SenderPolicy

open Text

/-- The state of the reader behind a character that closes no macro, if the text may go on with it. -/
def ScanState.next? (n : Nat) (c : Char) : ScanState → Option ScanState
  | .plain literal => some (if c = '%' then .percent literal n else .plain (c :: literal))
  | .percent literal start =>
    if c = '%' then some (.plain ('%' :: literal))
    else if c = '_' then some (.plain (' ' :: literal))
    else if c = '-' then some (.plain ('0' :: '2' :: '%' :: literal))
    else if c = '{' then some (.braces literal start [])
    else none
  | .braces literal start content => if c = '}' then none else some (.braces literal start (c :: content))

section
variable {explanation : Bool} {state state' : ScanState} {n : Nat} {c : Char} {s : List Char} {tokens : List Token}

theorem scanTokens_of_next? (h : state.next? n c = some state') :
    scanTokens explanation state n (c :: s) = scanTokens explanation state' (n + 1) s := by
  cases state with
  | plain literal =>
    cases h
    rw [scanTokens]
    split <;> rfl
  | percent literal start =>
    rw [ScanState.next?] at h
    rw [scanTokens]
    split_ifs at h ⊢ <;> cases h <;> rfl
  | braces literal start content =>
    rw [ScanState.next?] at h
    rw [scanTokens]
    split_ifs at h ⊢
    cases h
    rfl

/-- Where the reader does not go on, a macro is closed, or the text is no macro string. -/
theorem closes_or_error_of_next? (explanation : Bool) (h : state.next? n c = none) :
    (∃ literal start content, state = .braces literal start content ∧ c = '}') ∨
      ∃ k, ∀ s, scanTokens explanation state n (c :: s) = .error (.position k) := by
  cases state with
  | plain literal => cases h
  | percent literal start =>
    rw [ScanState.next?] at h
    refine .inr ⟨start, fun s => ?_⟩
    rw [scanTokens]
    split_ifs at h ⊢
    rfl
  | braces literal start content =>
    rw [ScanState.next?] at h
    split_ifs at h with hc
    exact .inl ⟨literal, start, content, rfl, hc⟩

/-- How a text is read as tokens from a state on: it is at its end in literal text, its first character takes the reader to
another state, or that closes a macro, which is put with the literal text in front of what follows. -/
inductive ScanState.Turn (explanation : Bool) (state : ScanState) (n : Nat) : List Char → List Token → Prop
  | done {literal : List Char} (h : state = .plain literal) : Turn explanation state n [] (flush literal [])
  | next {c : Char} {s : List Char} {tokens : List Token} {state' : ScanState} (h : state.next? n c = some state')
      (hs : scanTokens explanation state' (n + 1) s = .ok tokens) : Turn explanation state n (c :: s) tokens
  | close {literal content : List Char} {start : Nat} {m : Macro} {s : List Char} {tokens : List Token}
      (h : state = .braces literal start content) (hm : bracedMacro explanation start content.reverse = .ok m)
      (hs : scanTokens explanation (.plain []) (n + 1) s = .ok tokens) :
      Turn explanation state n ('}' :: s) (flush literal (.expansion m :: tokens))

theorem turn_of_scanTokens (h : scanTokens explanation state n s = .ok tokens) : state.Turn explanation n s tokens := by
  cases s with
  | nil =>
    cases state with
    | plain literal =>
      cases h
      exact .done rfl
    | percent | braces => cases h
  | cons c s =>
    cases hn : state.next? n c with
    | some state' => exact .next hn (scanTokens_of_next? hn ▸ h)
    | none =>
      rcases closes_or_error_of_next? explanation hn with ⟨literal, start, content, rfl, rfl⟩ | ⟨k, error⟩
      · rw [scanTokens, if_pos rfl] at h
        obtain ⟨m, hm, h⟩ := bind_ok_iff.mp h
        obtain ⟨later, hl, h⟩ := bind_ok_iff.mp h
        cases h
        exact .close rfl hm hl
      · rw [error s] at h
        cases h

/-- The reader fails for another reason than a position only where it closes a macro. -/
theorem exists_bracedMacro_of_scanTokens {e : NumeralError} (h : scanTokens explanation state n s = .error (.numeral e)) :
    ∃ start content, bracedMacro explanation start content = .error (.numeral e) := by
  induction s generalizing state n with
  | nil => cases state <;> cases h
  | cons c s ih =>
    cases hn : state.next? n c with
    | some state' =>
      rw [scanTokens_of_next? hn] at h
      exact ih h
    | none =>
      rcases closes_or_error_of_next? explanation hn with ⟨literal, start, content, rfl, rfl⟩ | ⟨k, error⟩
      · rw [scanTokens, if_pos rfl] at h
        rcases bind_error_iff.mp h with hm | ⟨m, -, h⟩
        · exact ⟨start, content.reverse, hm⟩
        · rcases bind_error_iff.mp h with hl | ⟨later, -, h⟩
          · exact ih hl
          · cases h
      · rw [error s] at h
        cases h

end

end SenderPolicy
