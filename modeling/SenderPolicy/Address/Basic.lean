/-! Addresses of mail clients and hosts: 32 bits, or 128 bits with an optional scope. -/

namespace SenderPolicy

/-- An Internet address. A scope names a link and is no part of the bits. -/
inductive Address where
  | v4 (bits : BitVec 32)
  | v6 (bits : BitVec 128) (scope : Option String)
deriving DecidableEq, Repr

/-- The two address families. -/
inductive Family where
  | v4
  | v6
deriving DecidableEq, Repr

/-- The number of bits of an address. -/
def Family.width : Family → Nat
  | .v4 => 32
  | .v6 => 128

namespace Address

def family : Address → Family
  | v4 _ => .v4
  | v6 _ _ => .v6

/-- Whether two addresses are of one family and their first `length` bits agree. -/
def sharesBits (length : Nat) : Address → Address → Bool
  | v4 a, v4 b => a >>> (32 - length) == b >>> (32 - length)
  | v6 a _, v6 b _ => a >>> (128 - length) == b >>> (128 - length)
  | _, _ => false

/-- The 32-bit address that a mapped 128-bit one carries; any other address is left as it is. -/
def unmapped : Address → Address
  | v6 bits scope => if bits >>> 32 == 0xFFFF then v4 (bits.setWidth 32) else v6 bits scope
  | address => address

end Address

end SenderPolicy
