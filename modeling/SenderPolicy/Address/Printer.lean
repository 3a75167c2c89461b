import SenderPolicy.Address.Reader

/-! The texts of an address: its shortest form, its hexadecimal digits one by one, and the name under which
its host name is looked up. -/

namespace SenderPolicy.Address

open Text

/-- The four octets of 32 bits. -/
def octets (bits : BitVec 32) : List Nat :=
  [bits.toNat / 16777216, bits.toNat / 65536 % 256, bits.toNat / 256 % 256, bits.toNat % 256]

def dotted (bits : BitVec 32) : List Char :=
  joined ['.'] ((octets bits).map fun octet => (toString octet).toList)

/-- The eight 16-bit groups of 128 bits. -/
def groups (bits : BitVec 128) : List Nat :=
  (List.range 8).map fun i => bits.toNat >>> (16 * (7 - i)) % 65536

/-- Start and length of the longest run of zeros; of two equally long ones the earlier. -/
def longestZeroRun (groups : List Nat) : Nat × Nat :=
  (List.range groups.length).foldl
    (fun best i =>
      let run := ((groups.drop i).takeWhile (· == 0)).length
      if best.2 < run then (i, run) else best)
    (0, 0)

/-- Groups between colons; the longest run of at least two zeros is left out between two colons. -/
def compressed (bits : BitVec 128) : List Char :=
  let texts := (groups bits).map (hexadecimal 1)
  let (start, length) := longestZeroRun (groups bits)
  if length < 2 then joined [':'] texts
  else joined [':'] (texts.take start) ++ [':', ':'] ++ joined [':'] (texts.drop (start + length))

/-- The shortest text of an address, its scope behind a percent sign. -/
def text : Address → String
  | v4 bits => String.ofList (dotted bits)
  | v6 bits none => String.ofList (compressed bits)
  | v6 bits (some scope) => String.ofList (compressed bits ++ '%' :: scope.toList)

/-- The 32 hexadecimal digits of 128 bits. -/
def nibbles (bits : BitVec 128) : List Char :=
  (List.range 32).map fun i => Nat.digitChar (bits.toNat >>> (4 * (31 - i)) % 16)

/-- The text of an address with its parts between dots, as macros use it: octets, or single hexadecimal
digits. The digits are those of the printed address, so a scope makes it fail. -/
def macroText : Address → Except GroupsError String
  | v4 bits => .ok (String.ofList (dotted bits))
  | address@(v6 _ _) =>
    (readGroups address.text.toList).map fun bits => String.ofList (joined ['.'] ((nibbles bits).map ([·])))

/-- The name under which the host name of an address is looked up; none for a scoped one. -/
def reverseName? (address : Address) : Option String :=
  match address.unmapped, address with
  | v4 bits, v4 _ | v4 bits, v6 _ none =>
    some (String.ofList (joined ['.'] ((octets bits).reverse.map fun octet => (toString octet).toList)
      ++ ".in-addr.arpa.".toList))
  | v6 bits none, _ =>
    some (String.ofList (joined ['.'] ((nibbles bits).reverse.map ([·])) ++ ".ip6.arpa.".toList))
  | _, _ => none

/-- The text less a line end that follows a dotted tail, which the reverse lookup overlooks. -/
def withoutLineEnd (s : List Char) : List Char :=
  match s.getLast?, cutLast ':' s with
  | some '\n', some (_, tail) => if tail.contains '.' then s.dropLast else s
  | _, _ => s

/-- The reverse name of the address that a text writes. -/
def reverseNameOfText? (s : String) : Option String :=
  (ofChars? (withoutLineEnd s.toList)).bind reverseName?

end SenderPolicy.Address
