import SenderPolicy.Text.Blank
import SenderPolicy.Text.Digit
import SenderPolicy.Text.Quoted

/-! Numerals: whole numbers and decimals with an optional sign, white space around them, digits of any
script and single underscores between digits. -/

namespace SenderPolicy.Text

/-- Why a text is not read as a number. -/
inductive NumeralError where
  | notWhole (text : String)
  | notDecimal (text : String)
  | tooManyDigits (count : Nat)
deriving DecidableEq, Repr

/-- Longer runs of digits are not read as whole numbers. -/
def maxDigits : Nat := 4300

def NumeralError.message : NumeralError → String
  | .notWhole text =>
    s!"invalid literal for int() with base 10: {String.ofList ((quoted text).toList.take 200)}"
  | .notDecimal text => s!"could not convert string to float: {quoted text}"
  | .tooManyDigits count =>
    s!"Exceeds the limit ({maxDigits} digits) for integer string conversion: value has {count} digits; "
      ++ "use sys.set_int_max_str_digits() to increase the limit"

/-- White space that may surround a numeral: the separator controls of ASCII do not count. -/
def isNumeralBlank (c : Char) : Bool :=
  (9 ≤ c.toNat && c.toNat ≤ 13) || c.toNat == 32 || (0x7F ≤ c.toNat && isBlank c)

/-- Splits a sign off a numeral and says whether it is a minus. -/
def signOf : List Char → Bool × List Char
  | '-' :: rest => (true, rest)
  | '+' :: rest => (false, rest)
  | rest => (false, rest)

/-- The digits of a run in which underscores stand singly between digits. -/
def underscoredDigits? (run : List Char) : Option (List Nat) :=
  if (pieces (· == '_') run).all (!·.isEmpty) then some (run.filterMap digit?) else none

/-- Reads a whole number. The length of the run of digits is judged before what follows it. -/
def readWhole (text : String) : Except NumeralError Int :=
  let (negative, s) := signOf (text.toList.dropWhile isNumeralBlank)
  let inRun := fun c => isDigit c || c == '_'
  match underscoredDigits? (s.takeWhile inRun) with
  | none => .error (.notWhole text)
  | some digits =>
    if digits.length > maxDigits then .error (.tooManyDigits digits.length)
    else if (s.dropWhile inRun).all isNumeralBlank then
      .ok (if negative then -(ofDigits digits : Int) else ofDigits digits)
    else .error (.notWhole text)

/-- Reads a run of digits alone, without sign, blanks or underscores. -/
def readDigits (run : List Char) : Except NumeralError Nat :=
  if run.length > maxDigits then .error (.tooManyDigits run.length) else .ok (digitsValue run)

/-- A decimal `± digits · 10 ^ exponent`. -/
structure Decimal where
  negative : Bool
  digits : Nat
  exponent : Int
deriving DecidableEq, Repr

/-- What the text of a decimal number stands for. -/
inductive Quantity where
  | finite (d : Decimal)
  | infinite (negative : Bool)
  | undefined
deriving DecidableEq, Repr

/-- Drops underscores if each of them stands between two digits. -/
def withoutUnderscores? (s : List Char) : Option (List Char) :=
  let lone := fun (before after : Option Char) => before.any isDigit && after.any isDigit
  let rec go (before : Option Char) : List Char → Option (List Char)
    | [] => some []
    | c :: rest =>
      if c = '_' then if lone before rest.head? then go (some c) rest else none
      else (go (some c) rest).map (c :: ·)
  go none s

/-- The exponent part of a decimal, zero if there is none. -/
def exponentOf? : List Char → Option Int
  | [] => some 0
  | c :: rest =>
    if c = 'e' || c = 'E' then
      let (negative, run) := signOf rest
      if run.isEmpty || !run.all isDigit then none
      else some (if negative then -(digitsValue run : Int) else digitsValue run)
    else none

/-- The unsigned part of a decimal: digits with an optional point, at least one digit, and an exponent. -/
def magnitudeOf? (negative : Bool) (s : List Char) : Option Decimal :=
  let whole := s.takeWhile isDigit
  let rest := s.dropWhile isDigit
  let (places, rest) := match rest with
    | '.' :: after => (after.takeWhile isDigit, after.dropWhile isDigit)
    | _ => ([], rest)
  if whole.isEmpty && places.isEmpty then none
  else (exponentOf? rest).map fun e => ⟨negative, digitsValue (whole ++ places), e - places.length⟩

/-- Reads a decimal number, or one of the words for infinity and for an undefined value. -/
def readDecimal (text : String) : Except NumeralError Quantity :=
  let attempt : Option Quantity := do
    let (negative, s) := signOf (← withoutUnderscores? (stripped isNumeralBlank text.toList))
    let word := String.ofList (s.map Char.toLower)
    if word = "inf" || word = "infinity" then some (.infinite negative)
    else if word = "nan" then some .undefined
    else (magnitudeOf? negative s).map .finite
  match attempt with
  | some q => .ok q
  | none => .error (.notDecimal text)

end SenderPolicy.Text
