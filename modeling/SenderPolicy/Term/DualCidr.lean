import SenderPolicy.Error
import SenderPolicy.Term.Reader

/-! The value of an address or mail mechanism: a name and prefix lengths for the two address families, the
second of them behind two slashes. -/

namespace SenderPolicy

open Text

/-- A name and the prefix lengths given with it. -/
structure DualCidr where
  domainSpec : String
  ip4 : Option Nat
  ip6 : Option Nat
deriving DecidableEq, Repr

namespace DualCidr

/-- Splits off digits behind slashes, if there are any. -/
def digitsAfter (slashes s : List Char) : Option (List Char) × List Char :=
  if slashes.isPrefixOf s then
    let rest := s.drop slashes.length
    let run := rest.takeWhile isDigit
    if run.isEmpty then (none, s) else (some run, rest.dropWhile isDigit)
  else (none, s)

/-- The digits of both lengths if a text holds nothing else, apart from a line end. -/
def suffix? (s : List Char) : Option (Option (List Char) × Option (List Char)) :=
  let (ip4, s) := digitsAfter ['/'] s
  let (ip6, s) := digitsAfter ['/', '/'] s
  if s = [] || s = ['\n'] then some (ip4, ip6) else none

/-- Splits a value at the first place from which on it holds only lengths. -/
def split? : List Char → Option (List Char × Option (List Char) × Option (List Char))
  | [] => (suffix? []).map fun lengths => ([], lengths)
  | c :: rest => match suffix? (c :: rest) with
    | some lengths => some ([], lengths)
    | none => if c = '\n' then none else (split? rest).map fun (name, lengths) => (c :: name, lengths)

/-- A prefix length of at most the width of its family. -/
def readLength (width : Nat) (tooLong : SyntaxError) : Option (List Char) → Except Failure (Option Nat)
  | none => .ok none
  | some run => match readDigits run with
    | .error e => .error (.fault (.numeral e))
    | .ok n => if n > width then .error (.malformed tooLong) else .ok (some n)

/-- The name and the prefix lengths of a directive. Behind a slash there is no name. -/
def ofDirective (d : Directive) : Except Failure DualCidr :=
  let value := if d.separator = .slash then '/' :: d.value.toList else d.value.toList
  match split? value with
  | none => .error (.fault .unsplittable)
  | some (name, ip4, ip6) =>
    if d.separator = .slash && !name.isEmpty then .error (.malformed (.cidr d.raw))
    else do
      let ip4 ← readLength 32 (.cidr4 d.raw) ip4
      let ip6 ← readLength 128 (.cidr6 d.raw) ip6
      pure ⟨String.ofList name, ip4, ip6⟩

end DualCidr

end SenderPolicy
