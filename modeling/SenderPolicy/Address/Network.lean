import SenderPolicy.Address.Reader

/-! Networks: an address and the number of leading bits that their members share. -/

namespace SenderPolicy

/-- All addresses that share the first `length` bits with an address. -/
structure Network where
  address : Address
  length : Nat
deriving DecidableEq, Repr

namespace Network

open Text

/-- Whether an address lies in a network; the scopes of addresses do not matter. -/
def contains (network : Network) (address : Address) : Bool :=
  network.address.sharesBits network.length address

/-- A prefix length in ASCII digits. -/
def readLength (width : Nat) (s : List Char) : Option Nat :=
  if s.isEmpty || !s.all (Text.asciiDigit? · |>.isSome) || s.length > maxLengthDigits then none
  else if digitsValue s ≤ width then some (digitsValue s) else none
where
  /-- A longer run of digits is refused whatever its value. -/
  maxLengthDigits : Nat := 4300

/-- The number of leading ones, if no one follows a zero. -/
def leadingOnes? (mask : BitVec 32) : Option Nat :=
  (List.range 33).find? fun length => mask == BitVec.allOnes 32 <<< (32 - length)

/-- A prefix length given by a mask of the shared bits, or by a mask of the others. -/
def lengthOfMask? (s : List Char) : Option Nat :=
  match Address.readDotted s with
  | .error _ => none
  | .ok mask => (leadingOnes? mask).orElse fun _ => leadingOnes? (~~~mask)

/-- The length that stands behind the slash, the full width if there is none. -/
def readMask (family : Family) : Option (List Char) → Option Nat
  | none => some family.width
  | some s => match family with
    | .v4 => (readLength 32 s).orElse fun _ => lengthOfMask? s
    | .v6 => readLength 128 s

/-- The network that a text writes: an address and an optional prefix length or mask. -/
def ofText? (s : String) : Option Network := do
  let (address, mask) := match cutFirst '/' s.toList with
    | none => (s.toList, none)
    | some (address, mask) => (address, some mask)
  let address ← Address.ofChars? address
  let length ← readMask address.family mask
  pure ⟨address, length⟩

end Network

end SenderPolicy
