import SenderPolicy.Address.Printer
import SenderPolicy.CommandLine.Option
import SenderPolicy.Dns.Client
import SenderPolicy.Evaluation.Basic

/-! Reading the arguments of the command line, from left to right: three plain arguments name the client, the
sender and the name the client has given; options stand anywhere between them. -/

namespace SenderPolicy.CommandLine

open Text

/-! ### Results -/

/-- The plain arguments. -/
inductive Positional where
  | ip
  | sender
  | helo
deriving DecidableEq, Repr

def Positional.title : Positional → String
  | ip => "ip"
  | sender => "sender"
  | helo => "helo"

/-- What is wrong with the arguments. -/
inductive UsageError where
  | ambiguous (cause : Ambiguity)
  | expectsOne (flag : Flag)
  | expectsSome (flag : Flag)
  | needlessArgument (flag : Flag) (argument : String)
  | invalidValue (title kind value : String)
  | missing (positionals : List Positional)
  | unrecognized (arguments : List String)
deriving DecidableEq, Repr

/-- Texts with commas between them. -/
def listed (texts : List String) : String := String.intercalate ", " texts

def UsageError.message : UsageError → String
  | ambiguous cause => s!"ambiguous option: {cause.argument} could match {listed cause.names}"
  | expectsOne flag => s!"argument {flag.title}: expected one argument"
  | expectsSome flag => s!"argument {flag.title}: expected at least one argument"
  | needlessArgument flag argument => s!"argument {flag.title}: ignored explicit argument {quoted argument}"
  | invalidValue title kind value => s!"argument {title}: invalid {kind} value: {quoted value}"
  | missing positionals =>
    s!"the following arguments are required: {listed (positionals.map Positional.title)}"
  | unrecognized arguments => "unrecognized arguments: " ++ String.intercalate " " arguments

/-- Why no check is asked for: the arguments are wrong, or something else is wanted. -/
inductive Stop where
  | usage (cause : UsageError)
  | help
  | version
deriving DecidableEq, Repr

/-- What the arguments ask for. -/
structure Request where
  ip : Address := .v4 0
  sender : String := ""
  helo : String := ""
  receiver : String := Receiver.unknownName
  withHelo : Bool := true
  strict : Bool := false
  output : Option (List String) := none
  nameservers : Option (List String) := none
  timeout : Quantity := .finite ⟨false, 2, 0⟩
  retries : Int := 2
  debug : Bool := false
deriving DecidableEq, Repr

/-! ### One option, one plain argument -/

/-- Takes the arguments of an option. A mark given to an option directly counts as no argument. -/
def applyFlag (flag : Flag) (arguments : List String) (request : Request) : Except Stop Request :=
  let arguments := arguments.erase "--"
  let argument := arguments.head?.getD ""
  match flag with
  | .help => .error .help
  | .version => .error .version
  | .receiver => .ok { request with receiver := argument }
  | .noHelo => .ok { request with withHelo := false }
  | .strict => .ok { request with strict := true }
  | .debug => .ok { request with debug := true }
  | .output => .ok { request with output := some arguments }
  | .nameserver => .ok { request with nameservers := some arguments }
  | .timeout => match readDecimal argument with
    | .ok timeout => .ok { request with timeout }
    | .error _ => .error (.usage (.invalidValue flag.title "float" argument))
  | .retries => match readWhole argument with
    | .ok retries => .ok { request with retries }
    | .error _ => .error (.usage (.invalidValue flag.title "int" argument))

/-- Takes a plain argument. -/
def applyPositional (positional : Positional) (argument : String) (request : Request) : Except Stop Request :=
  match positional with
  | .ip => match Address.ofText? argument with
    | some ip => .ok { request with ip }
    | none => .error (.usage (.invalidValue positional.title "ip_address" argument))
  | .sender => .ok { request with sender := argument }
  | .helo => .ok { request with helo := argument }

/-! ### Options in one argument -/

/-- An option that still wants arguments: the options written before it in one argument, and the arguments it
has got so far. -/
structure Open where
  before : List Flag
  flag : Flag
  arguments : List String := []
deriving DecidableEq, Repr

/-- Takes the options of one argument together with the arguments of the last of them. -/
def Open.close (o : Open) (request : Request) : Except Stop Request := do
  let request ← o.before.foldlM (fun request flag => applyFlag flag [] request) request
  applyFlag o.flag o.arguments request

/-- Follows short options without arguments that are written in one argument. Gives the last of them and the
argument that is left for it, if any. -/
def followShort (before : List Flag) (flag : Flag) : List Char → Except UsageError (Open × Option String)
  | [] => .ok (⟨before, flag, []⟩, none)
  | c :: rest =>
    if flag.arity ≠ .none then .ok (⟨before, flag, []⟩, some (String.ofList (c :: rest)))
    else match flagNamed? ['-', c] with
      | none => .error (.needlessArgument flag (String.ofList (c :: rest)))
      | some next => followShort (before ++ [flag]) next rest

/-- The option of an argument and the argument it is given directly. -/
def openOption (name : List Char) (flag : Flag) : Option (List Char) → Except UsageError (Open × Option String)
  | none => .ok (⟨[], flag, []⟩, none)
  | some explicit =>
    if flag.arity ≠ .none then .ok (⟨[], flag, []⟩, some (String.ofList explicit))
    else if ['-', '-'].isPrefixOf name || explicit.isEmpty then
      .error (.needlessArgument flag (String.ofList explicit))
    else followShort [] flag explicit

/-! ### All arguments -/

/-- How far the reader has come. -/
structure Progress where
  request : Request := {}
  /-- The plain arguments that are still to come. -/
  wanted : List Positional := [.ip, .sender, .helo]
  extras : List String := []
  opened : Option Open := none
  /-- The last argument was one of the plain ones that are wanted. -/
  behindWanted : Bool := false
  /-- A mark that belongs to the next plain argument, if there is one. -/
  heldMark : Bool := false

/-- Closes the option that is open when no further argument belongs to it. -/
def closeOpen (p : Progress) : Except Stop Progress :=
  match p.opened with
  | none => .ok p
  | some o => match o.flag.arity, o.arguments with
    | .one, [] => .error (.usage (.expectsOne o.flag))
    | .several, [] => .error (.usage (.expectsSome o.flag))
    | _, _ => (o.close p.request).map fun request => { p with request, opened := none }

/-- Takes a plain argument for the option that is open, or for the next one that is wanted. -/
def stepPlain (p : Progress) (argument : String) : Except Stop Progress :=
  match p.opened with
  | some o =>
    let p := { p with opened := some { o with arguments := o.arguments ++ [argument] } }
    if o.flag.arity = .one then closeOpen p else .ok p
  | none => match p.wanted with
    | [] => .ok { p with extras := p.extras ++ [argument], behindWanted := false }
    | positional :: wanted =>
      (applyPositional positional argument p.request).map fun request =>
        { p with request, wanted, behindWanted := true, heldMark := false }

/-- Takes an option. One that needs no arguments, or has got its argument, is closed at once. -/
def stepOption (p : Progress) (name : List Char) (flag : Flag) (explicit : Option (List Char)) :
    Except Stop Progress := do
  let p ← closeOpen p
  match openOption name flag explicit with
  | .error e => throw (.usage e)
  | .ok (o, argument) =>
    let p := { p with
      opened := some { o with arguments := argument.toList }
      behindWanted := false }
    if o.flag.arity = .none || argument.isSome then closeOpen p else pure p

/-- Takes the mark. It belongs to the wanted argument before it or behind it; otherwise it is one too many. -/
def stepMark (p : Progress) : Except Stop Progress := do
  let p ← closeOpen p
  if p.behindWanted then pure p
  else if p.wanted.isEmpty then pure { p with extras := p.extras ++ ["--"] }
  else pure { p with heldMark := true }

def step (p : Progress) : String × Piece → Except Stop Progress
  | (argument, .plain) => stepPlain p argument
  | (_, .mark) => stepMark p
  | (_, .option name flag explicit) => stepOption p name flag explicit
  | (argument, .unknownOption) => do
    let p ← closeOpen p
    pure { p with extras := p.extras ++ [argument], behindWanted := false }

/-- What is asked for when all arguments have been taken. -/
def finish (p : Progress) : Except Stop Request := do
  let p ← closeOpen p
  let extras := if p.heldMark then p.extras ++ ["--"] else p.extras
  if !p.wanted.isEmpty then throw (.usage (.missing p.wanted))
  if !extras.isEmpty then throw (.usage (.unrecognized extras))
  pure p.request

/-- Reads the arguments. -/
def readArguments (arguments : List String) : Except Stop Request :=
  match classifyAll arguments with
  | .error e => .error (.usage (.ambiguous e))
  | .ok pieces => do
    let p ← pieces.foldlM step {}
    finish p

end SenderPolicy.CommandLine
