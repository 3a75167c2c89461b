import Mathlib.Data.Bool.AllAny
import SenderPolicy.Address.Reader
import SenderPolicy.Proofs.Pieces
import SenderPolicy.Text.Percent

/-! Percent encoding undone. An encoded text holds unreserved characters and bytes as groups of a percent sign and two
digits, nothing else; the groups give back the bytes, and the bytes the text, whatever the text is. -/

namespace SenderPolicy.Text

variable {c : Char} {s : List Char}

/-- The hexadecimal digits in upper case. -/
def upperHexDigits : List Char := ['0', '1', '2', '3', '4', '5', '6', '7', '8', '9', 'A', 'B', 'C', 'D', 'E', 'F']

/-- A text of unreserved characters and groups of a percent sign and two digits. -/
inductive IsPercentText : List Char → Prop
  | nil : IsPercentText []
  | unreserved {c : Char} {rest : List Char} (h : isUnreserved c = true) (later : IsPercentText rest) : IsPercentText (c :: rest)
  | group {high low : Char} {rest : List Char} (hh : high ∈ upperHexDigits) (hl : low ∈ upperHexDigits)
      (later : IsPercentText rest) : IsPercentText ('%' :: high :: low :: rest)

/-- The bytes that a text with groups stands for; none if a percent sign stands before anything but two digits. -/
def percentBytes? : List Char → Option (List UInt8)
  | [] => some []
  | c :: rest =>
    if c = '%' then match rest with
      | high :: low :: rest => do
        let high ← Address.hexDigit? high
        let low ← Address.hexDigit? low
        (percentBytes? rest).map (UInt8.ofNat (16 * high + low) :: ·)
      | _ => none
    else (percentBytes? rest).map (String.utf8EncodeChar c ++ ·)

/-- The text that a text with groups stands for; none if its bytes are those of no text. -/
def percentDecoded? (s : List Char) : Option String :=
  (percentBytes? s).bind fun bytes => String.fromUTF8? bytes.toByteArray

/-! ### Groups -/

theorem hexDigitUpper_digit : ∀ n < 16, hexDigitUpper n ∈ upperHexDigits ∧ Address.hexDigit? (hexDigitUpper n) = some n := by
  decide

/-- A group gives back the byte that it is written for. -/
theorem percentBytes?_byte (b : UInt8) (rest : List Char) :
    percentBytes? (percentByte b ++ rest) = (percentBytes? rest).map (b :: ·) := by
  have small : b.toNat < 256 := b.toNat_lt
  have high := (hexDigitUpper_digit (b.toNat / 16) (by omega)).2
  have low := (hexDigitUpper_digit (b.toNat % 16) (by omega)).2
  have whole : UInt8.ofNat (16 * (b.toNat / 16) + b.toNat % 16) = b := by
    rw [Nat.div_add_mod, UInt8.ofNat_toNat]
  show percentBytes? ('%' :: hexDigitUpper (b.toNat / 16) :: hexDigitUpper (b.toNat % 16) :: rest) = _
  rw [percentBytes?, if_pos rfl, high, low]
  show Option.map (UInt8.ofNat (16 * (b.toNat / 16) + b.toNat % 16) :: ·) _ = _
  rw [whole]

theorem percentBytes?_cons (h : c ≠ '%') : percentBytes? (c :: s) = (percentBytes? s).map (String.utf8EncodeChar c ++ ·) := by
  cases s with
  | nil => simp only [percentBytes?, if_neg h]
  | cons d s =>
    cases s <;> simp only [percentBytes?, if_neg h]

theorem percentBytes?_bytes (bytes : List UInt8) (rest : List Char) :
    percentBytes? (bytes.flatMap percentByte ++ rest) = (percentBytes? rest).map (bytes ++ ·) := by
  induction bytes with
  | nil => simp
  | cons b bytes ih =>
    rw [List.flatMap_cons, List.append_assoc, percentBytes?_byte, ih, Option.map_map]
    rfl

theorem isPercentText_bytes (bytes : List UInt8) {rest : List Char} (h : IsPercentText rest) :
    IsPercentText (bytes.flatMap percentByte ++ rest) := by
  induction bytes with
  | nil => exact h
  | cons b bytes ih =>
    have small : b.toNat < 256 := b.toNat_lt
    exact .group (hexDigitUpper_digit _ (by omega)).1 (hexDigitUpper_digit _ (by omega)).1 ih

/-! ### Encoded texts -/

/-- Unreserved characters belong to ASCII, and the percent sign is none of them. -/
theorem unreserved_ascii (h : isUnreserved c = true) : c.toNat < 128 ∧ c ≠ '%' := by
  constructor
  · have below : ∀ d : Char, d.toNat < 128 → c.val ≤ d.val → c.toNat < 128 := fun d hd h =>
      Nat.lt_of_le_of_lt (UInt32.le_iff_toNat_le.mp h) hd
    unfold isUnreserved Char.isAlphanum Char.isAlpha Char.isUpper Char.isLower Char.isDigit at h
    simp only [Bool.or_eq_true, Bool.and_eq_true, decide_eq_true_eq] at h
    rcases h with ((((((⟨-, upper⟩ | ⟨-, lower⟩) | ⟨-, digit⟩) | rfl) | rfl) | rfl) | rfl)
    · exact below 'Z' (by decide) upper
    · exact below 'z' (by decide) lower
    · exact below '9' (by decide) digit
    all_goals decide
  · rintro rfl
    exact absurd h (by decide)

/-- Every character of a text with groups belongs to ASCII. -/
theorem IsPercentText.ascii (h : IsPercentText s) : ∀ c ∈ s, c.toNat < 128 := by
  have digit : ∀ c ∈ upperHexDigits, c.toNat < 128 := List.all_iff_forall_prop.mp (by decide)
  induction h with
  | nil => exact fun _ => nofun
  | unreserved h _ ih => exact List.forall_mem_cons.mpr ⟨(unreserved_ascii h).1, ih⟩
  | group hh hl _ ih =>
    refine List.forall_mem_cons.mpr ⟨by decide, List.forall_mem_cons.mpr ⟨digit _ hh, ?_⟩⟩
    exact List.forall_mem_cons.mpr ⟨digit _ hl, ih⟩

theorem isPercentText_encoded (s : List Char) : IsPercentText (percentEncoded s) := by
  induction s with
  | nil => exact .nil
  | cons c s ih =>
    rw [percentEncoded, List.flatMap_cons]
    split
    · rename_i h
      exact .unreserved h ih
    · exact isPercentText_bytes _ ih

theorem percentBytes?_encoded (s : List Char) : percentBytes? (percentEncoded s) = some (s.flatMap String.utf8EncodeChar) := by
  induction s with
  | nil => rfl
  | cons c s ih =>
    rw [percentEncoded, List.flatMap_cons, List.flatMap_cons]
    split
    · rename_i h
      rw [List.singleton_append, percentBytes?_cons (unreserved_ascii h).2]
      exact congrArg (Option.map (String.utf8EncodeChar c ++ ·)) ih
    · rw [percentBytes?_bytes]
      exact congrArg (Option.map (String.utf8EncodeChar c ++ ·)) ih

/-- Every text comes back when its encoded form is decoded. -/
theorem percentDecoded?_encoded (s : List Char) : percentDecoded? (percentEncoded s) = some (String.ofList s) := by
  have valid : (s.flatMap String.utf8EncodeChar).toByteArray = (String.ofList s).toByteArray := String.toByteArray_ofList.symm
  rw [percentDecoded?, percentBytes?_encoded, Option.bind_some, valid, String.fromUTF8?, dif_pos (String.ofList s).isValidUTF8]
  rfl

end SenderPolicy.Text
