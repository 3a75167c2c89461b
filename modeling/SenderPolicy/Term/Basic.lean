/-! The terms of a record: directives, which test the client and say what a match means, and modifiers. -/

namespace SenderPolicy

/-! ### Results -/

/-- The results of a check. -/
inductive Result where
  | none
  | pass
  | fail
  | policy
  | neutral
  | softfail
  | temperror
  | permerror
deriving DecidableEq, Repr

def Result.text : Result → String
  | none => "none"
  | pass => "pass"
  | fail => "fail"
  | policy => "policy"
  | neutral => "neutral"
  | softfail => "softfail"
  | temperror => "temperror"
  | permerror => "permerror"

/-- A result with its explanation. -/
structure Verdict where
  result : Result
  explanation : String
deriving DecidableEq, Repr

/-! ### Directives -/

/-- The sign in front of a directive. -/
inductive Qualifier where
  | plus
  | minus
  | tilde
  | question
  | unknown (sign : String)
deriving DecidableEq, Repr

namespace Qualifier

def sign : Qualifier → String
  | plus => "+"
  | minus => "-"
  | tilde => "~"
  | question => "?"
  | unknown sign => sign

/-- The qualifier with a sign; without a sign it is the plus. -/
def ofSign (sign : String) : Qualifier :=
  if sign = "+" || sign = "" then plus
  else if sign = "-" then minus
  else if sign = "~" then tilde
  else if sign = "?" then question
  else unknown sign

/-- The result that a match gives. -/
def result? : Qualifier → Option Result
  | plus => some .pass
  | minus => some .fail
  | tilde => some .softfail
  | question => some .neutral
  | unknown _ => Option.none

end Qualifier

/-- The test of a directive. -/
inductive Mechanism where
  | all
  | incl
  | a
  | mx
  | ptr
  | ip4
  | ip6
  | exists
  | unknown (name : String)
deriving DecidableEq, Repr

namespace Mechanism

def name : Mechanism → String
  | all => "all"
  | incl => "include"
  | a => "a"
  | mx => "mx"
  | ptr => "ptr"
  | ip4 => "ip4"
  | ip6 => "ip6"
  | .exists => "exists"
  | unknown name => name

/-- The mechanisms that exist. -/
def known : List Mechanism := [all, incl, a, mx, ptr, ip4, ip6, .exists]

/-- The mechanism with a name, known or not. -/
def ofName (name : String) : Mechanism :=
  (known.find? (·.name == name)).getD (unknown name)

end Mechanism

/-- What stands between the mechanism of a directive and its value. -/
inductive Separator where
  | absent
  | colon
  | slash
deriving DecidableEq, Repr

namespace Separator

def text : Separator → String
  | absent => ""
  | colon => ":"
  | slash => "/"

/-- The separator with a text; any text other than a slash is taken as a colon. -/
def ofText (s : String) : Separator :=
  if s = "" then absent else if s = "/" then slash else colon

end Separator

structure Directive where
  qualifier : Qualifier
  mechanism : Mechanism
  separator : Separator
  value : String
  /-- The text that was read. -/
  raw : String
deriving DecidableEq, Repr

/-! ### Modifiers -/

structure Modifier where
  name : String
  macroString : String
  /-- The text that was read. -/
  raw : String
deriving DecidableEq, Repr

namespace Modifier

/-- Whether the modifier names the policy to go on with when nothing matches. -/
def isRedirect (m : Modifier) : Bool := m.name == "redirect"

/-- Whether the modifier names the domain of the explanation for a failure. -/
def isExplanation (m : Modifier) : Bool := m.name == "exp"

end Modifier

inductive Term where
  | directive (d : Directive)
  | modifier (m : Modifier)
deriving DecidableEq, Repr

namespace Term

def raw : Term → String
  | directive d => d.raw
  | modifier m => m.raw

def directive? : Term → Option Directive
  | directive d => some d
  | modifier _ => none

def modifier? : Term → Option Modifier
  | directive _ => none
  | modifier m => some m

end Term

end SenderPolicy
