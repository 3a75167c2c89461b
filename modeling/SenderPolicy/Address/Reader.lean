import SenderPolicy.Address.Basic
import SenderPolicy.Text.Cut
import SenderPolicy.Text.Digit
import SenderPolicy.Text.Quoted

/-! Reading addresses: four decimal octets between dots, or up to eight hexadecimal groups between colons
with at most one gap of zeros, an optional dotted tail and an optional scope. -/

namespace SenderPolicy.Address

open Text

/-- Why a text is no octet. -/
inductive OctetError where
  | empty
  | notDecimal (text : String)
  | tooLong (text : String)
  | leadingZero (text : String)
  | tooLarge (value : Nat)
deriving DecidableEq, Repr

def OctetError.message : OctetError → String
  | .empty => "Empty octet not permitted"
  | .notDecimal text => s!"Only decimal digits permitted in {quoted text}"
  | .tooLong text => s!"At most 3 characters permitted in {quoted text}"
  | .leadingZero text => s!"Leading zeros are not permitted in {quoted text}"
  | .tooLarge value => s!"Octet {value} (> 255) not permitted"

/-- Why a text is no address of four octets. -/
inductive DottedError where
  | empty
  | octetCount (text : String)
  | octet (cause : OctetError) (text : String)
deriving DecidableEq, Repr

def DottedError.message : DottedError → String
  | .empty => "Address cannot be empty"
  | .octetCount text => s!"Expected 4 octets in {quoted text}"
  | .octet cause text => s!"{cause.message} in {quoted text}"

/-- Why a text is no group of hexadecimal digits. -/
inductive GroupError where
  | notHexadecimal (text : String)
  | tooLong (text : String)
deriving DecidableEq, Repr

def GroupError.message : GroupError → String
  | .notHexadecimal text => s!"Only hex digits permitted in {quoted text}"
  | .tooLong text => s!"At most 4 characters permitted in {quoted text}"

/-- What is wrong with a text that should hold groups between colons. -/
inductive GroupsFault where
  | tooFewParts
  | dottedTail (cause : DottedError)
  | tooManyColons
  | twoGaps
  | leadingColon
  | trailingColon
  | fullGap
  | partCount
  | group (cause : GroupError)
deriving DecidableEq, Repr

def GroupsFault.message : GroupsFault → String
  | .tooFewParts => "At least 3 parts expected"
  | .dottedTail cause => cause.message
  | .tooManyColons => "At most 8 colons permitted"
  | .twoGaps => "At most one \x27::\x27 permitted"
  | .leadingColon => "Leading \x27:\x27 only permitted as part of \x27::\x27"
  | .trailingColon => "Trailing \x27:\x27 only permitted as part of \x27::\x27"
  | .fullGap => "Expected at most 7 other parts with \x27::\x27"
  | .partCount => "Exactly 8 parts expected without \x27::\x27"
  | .group cause => cause.message

/-- Why a text is no address of eight groups. -/
inductive GroupsError where
  | empty
  | malformed (cause : GroupsFault) (text : String)
deriving DecidableEq, Repr

def GroupsError.message : GroupsError → String
  | .empty => "Address cannot be empty"
  | .malformed cause text => s!"{cause.message} in {quoted text}"

/-! ### Four octets -/

def readOctet (s : List Char) : Except OctetError Nat :=
  if s.isEmpty then .error .empty
  else if !s.all (asciiDigit? · |>.isSome) then .error (.notDecimal (String.ofList s))
  else if s.length > 3 then .error (.tooLong (String.ofList s))
  else if s.head? = some '0' && s ≠ ['0'] then .error (.leadingZero (String.ofList s))
  else if digitsValue s > 255 then .error (.tooLarge (digitsValue s))
  else .ok (digitsValue s)

def readDotted (s : List Char) : Except DottedError (BitVec 32) :=
  if s.isEmpty then .error .empty
  else
    let octets := pieces (· == '.') s
    if octets.length ≠ 4 then .error (.octetCount (String.ofList s))
    else match octets.mapM readOctet with
      | .error e => .error (.octet e (String.ofList s))
      | .ok values => .ok (BitVec.ofNat 32 (values.foldl (fun n octet => 256 * n + octet) 0))

/-! ### Eight groups -/

def hexDigit? (c : Char) : Option Nat :=
  let n := c.toNat
  if 0x30 ≤ n && n ≤ 0x39 then some (n - 0x30)
  else if 0x41 ≤ n && n ≤ 0x46 then some (n - 0x37)
  else if 0x61 ≤ n && n ≤ 0x66 then some (n - 0x57)
  else none

def readGroup (s : List Char) : Except GroupError Nat :=
  if !s.all (hexDigit? · |>.isSome) then .error (.notHexadecimal (String.ofList s))
  else if s.length > 4 then .error (.tooLong (String.ofList s))
  else .ok ((s.filterMap hexDigit?).foldl (fun n d => 16 * n + d) 0)

/-- The parts with a dotted last one written as two groups. -/
def withoutDottedTail (parts : List (List Char)) : Except GroupsFault (List (List Char)) :=
  match parts.getLast? with
  | some tail =>
    if tail.contains '.' then
      match readDotted tail with
      | .error e => .error (.dottedTail e)
      | .ok bits => .ok (parts.dropLast ++
          [hexadecimal 1 (bits.toNat / 65536), hexadecimal 1 (bits.toNat % 65536)])
    else .ok parts
  | none => .ok parts

/-- The positions of the empty parts other than the first and the last part. -/
def gaps (parts : List (List Char)) : List Nat :=
  (List.range parts.length).filter fun i =>
    0 < i && i + 1 < parts.length && (parts[i]?.getD []).isEmpty

/-- The parts with a gap filled up with zeros; an empty first or last part must lie at the gap. -/
def filledGap (parts : List (List Char)) (gap : Nat) : Except GroupsFault (List (List Char)) :=
  let high := parts.take gap
  let low := parts.drop (gap + 1)
  let opens := high.head?.any (·.isEmpty)
  let closes := low.getLast?.any (·.isEmpty)
  if opens && high.length > 1 then .error .leadingColon
  else if closes && low.length > 1 then .error .trailingColon
  else
    let high := if opens then [] else high
    let low := if closes then [] else low
    if high.length + low.length > 7 then .error .fullGap
    else .ok (high ++ List.replicate (8 - (high.length + low.length)) ['0'] ++ low)

/-- The eight groups that the parts between colons stand for. -/
def eightParts (parts : List (List Char)) : Except GroupsFault (List (List Char)) :=
  match gaps parts with
  | [] =>
    if parts.length ≠ 8 then .error .partCount
    else if parts.head?.any (·.isEmpty) then .error .leadingColon
    else if parts.getLast?.any (·.isEmpty) then .error .trailingColon
    else .ok parts
  | [gap] => filledGap parts gap
  | _ => .error .twoGaps

def readParts (parts : List (List Char)) : Except GroupsFault (BitVec 128) := do
  if parts.length < 3 then throw .tooFewParts
  let parts ← withoutDottedTail parts
  if parts.length > 9 then throw .tooManyColons
  let groups ← eightParts parts
  match groups.mapM readGroup with
  | .error e => throw (.group e)
  | .ok values => pure (BitVec.ofNat 128 (values.foldl (fun n group => 65536 * n + group) 0))

def readGroups (s : List Char) : Except GroupsError (BitVec 128) :=
  if s.isEmpty then .error .empty
  else match readParts (pieces (· == ':') s) with
    | .error e => .error (.malformed e (String.ofList s))
    | .ok bits => .ok bits

/-! ### Addresses -/

/-- A 128-bit address and its scope. A scope is neither empty nor holds a percent sign. -/
def readScoped (s : List Char) : Option Address :=
  match cutFirst '%' s with
  | none => (readGroups s).toOption.map (v6 · none)
  | some (groups, scope) =>
    if scope.isEmpty || scope.contains '%' then none
    else (readGroups groups).toOption.map (v6 · (some (String.ofList scope)))

/-- The address that a text writes. No address holds a slash, not even in its scope. -/
def ofChars? (s : List Char) : Option Address :=
  if s.contains '/' then none
  else match readDotted s with
    | .ok bits => some (v4 bits)
    | .error _ => readScoped s

@[inherit_doc ofChars?]
def ofText? (s : String) : Option Address := ofChars? s.toList

/-- Whether a text writes an address. -/
def isAddress (s : List Char) : Bool := (ofChars? s).isSome

end SenderPolicy.Address
