import SenderPolicy.Macro.Basic
import SenderPolicy.Text.LetterCase
import SenderPolicy.Text.Numeral

/-! Reading macro strings: literal text with three escapes, and macros in braces. -/

namespace SenderPolicy

open Text

namespace Macro

/-- Why a text is no macro. -/
inductive ReadError where
  | malformed
  | zeroDigits
  | numeral (cause : NumeralError)
deriving DecidableEq, Repr

/-- The letter of a macro and whether it is in upper case. Three characters outside ASCII are equal to a
letter when case is ignored, but their lower case is none of the letters. -/
def letter? (c : Char) : Option (Letter × Bool) :=
  match Letter.all.lookup c.toLower with
  | some letter => some (letter, c.isUpper)
  | none =>
    if c = 'İ' then some (.variant "i\u0307", true)
    else if c = 'ı' || c = 'ſ' then some (.variant (String.singleton c), false)
    else none

def isDelimiter (c : Char) : Bool :=
  ['.', '-', '+', ',', '/', '_', '='].contains c

/-- The number of parts that the digits of a macro ask for; none if there are no digits. -/
def readCount (run : List Char) : Except ReadError (Option Int) :=
  if run.isEmpty then .ok none
  else match readDigits run with
    | .error e => .error (.numeral e)
    | .ok 0 => .error .zeroDigits
    | .ok n => .ok (some n)

/-- Splits off the mark that the parts are taken in reverse order. -/
def reverseMark : List Char → Bool × List Char
  | [] => (false, [])
  | c :: rest => if c = 'r' || c = 'R' then (true, rest) else (false, c :: rest)

/-- Reads what stands behind the letter, up to the closing brace. -/
def readTransformers (letter : Letter) (escaped : Bool) (s : List Char) : Except ReadError Macro :=
  let (reverse, afterMark) := reverseMark (s.dropWhile isDigit)
  match afterMark.dropWhile isDelimiter with
  | '}' :: _ => do
    let count ← readCount (s.takeWhile isDigit)
    pure ⟨letter, count, reverse, String.ofList (afterMark.takeWhile isDelimiter), escaped⟩
  | _ => .error .malformed

/-- Reads the macro at the start of a text, from the opening brace; what follows it is not looked at. -/
def read (s : List Char) : Except ReadError Macro :=
  match s with
  | '{' :: c :: rest => match letter? c with
    | some (letter, escaped) => readTransformers letter escaped rest
    | none => .error .malformed
  | _ => .error .malformed

end Macro

/-! ### Macro strings -/

/-- Why a text is no macro string: it breaks off or goes wrong at a position, or a numeral is too long. -/
inductive MacroStringError where
  | position (n : Nat)
  | numeral (cause : NumeralError)
deriving DecidableEq, Repr

/-- Puts the literal text read so far, which is kept backwards, in front of tokens. -/
def flush (literal : List Char) (tokens : List Token) : List Token :=
  if literal.isEmpty then tokens else .literal (String.ofList literal.reverse) :: tokens

/-- How far the reader has come: in literal text, behind a percent sign, or in braces. The literal text and
the content of the braces are kept backwards, a percent sign by its position. -/
inductive ScanState where
  | plain (literal : List Char)
  | percent (literal : List Char) (start : Nat)
  | braces (literal : List Char) (start : Nat) (content : List Char)

/-- The macro between two braces, if the string may use its letter. -/
def bracedMacro (explanation : Bool) (start : Nat) (content : List Char) : Except MacroStringError Macro :=
  match Macro.read ('{' :: content ++ ['}']) with
  | .ok m => if m.letter.explanationOnly && !explanation then .error (.position (start + 2)) else .ok m
  | .error (.numeral e) => .error (.numeral e)
  | .error _ => .error (.position (start + 2))

/-- Reads tokens from a position on. -/
def scanTokens (explanation : Bool) : ScanState → (position : Nat) → List Char → Except MacroStringError (List Token)
  | .plain literal, _, [] => .ok (flush literal [])
  | .plain literal, n, c :: rest =>
    if c = '%' then scanTokens explanation (.percent literal n) (n + 1) rest
    else scanTokens explanation (.plain (c :: literal)) (n + 1) rest
  | .percent _ start, _, [] => .error (.position start)
  | .percent literal start, n, c :: rest =>
    if c = '%' then scanTokens explanation (.plain ('%' :: literal)) (n + 1) rest
    else if c = '_' then scanTokens explanation (.plain (' ' :: literal)) (n + 1) rest
    else if c = '-' then scanTokens explanation (.plain ('0' :: '2' :: '%' :: literal)) (n + 1) rest
    else if c = '{' then scanTokens explanation (.braces literal start []) (n + 1) rest
    else .error (.position start)
  | .braces _ start _, _, [] => .error (.position start)
  | .braces literal start content, n, c :: rest =>
    if c = '}' then do
      let m ← bracedMacro explanation start content.reverse
      let tokens ← scanTokens explanation (.plain []) (n + 1) rest
      pure (flush literal (.expansion m :: tokens))
    else scanTokens explanation (.braces literal start (c :: content)) (n + 1) rest

/-- The tokens of a macro string; two literals never stand side by side. -/
def readTokens (explanation : Bool) (s : List Char) : Except MacroStringError (List Token) :=
  scanTokens explanation (.plain []) 0 s

end SenderPolicy
