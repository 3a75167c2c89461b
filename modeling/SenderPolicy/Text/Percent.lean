/-! Percent encoding: every byte of a text outside the unreserved characters is written as a percent sign
and two upper-case hexadecimal digits. -/

namespace SenderPolicy.Text

/-- The letters and digits of ASCII and the four marks that need no encoding. -/
def isUnreserved (c : Char) : Bool :=
  c.isAlphanum || c = '_' || c = '.' || c = '-' || c = '~'

/-- An upper-case hexadecimal digit. -/
def hexDigitUpper (n : Nat) : Char :=
  Char.ofNat (if n < 10 then 0x30 + n else 0x37 + n)

/-- A byte as a percent sign and two digits. -/
def percentByte (b : UInt8) : List Char :=
  ['%', hexDigitUpper (b.toNat / 16), hexDigitUpper (b.toNat % 16)]

/-- The text with every character outside the unreserved ones percent-encoded. -/
def percentEncoded (s : List Char) : List Char :=
  s.flatMap fun c => if isUnreserved c then [c] else (String.utf8EncodeChar c).flatMap percentByte

end SenderPolicy.Text
