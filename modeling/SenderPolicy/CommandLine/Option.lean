import SenderPolicy.Text.Cut
import SenderPolicy.Text.Digit

/-! The options of the command line, and what each argument is: a plain argument, the mark behind which all
arguments are plain, or an option, possibly abbreviated and with an argument of its own. -/

namespace SenderPolicy.CommandLine

open Text

/-! ### Options -/

/-- The options. -/
inductive Flag where
  | help
  | receiver
  | noHelo
  | strict
  | output
  | nameserver
  | timeout
  | retries
  | version
  | debug
deriving DecidableEq, Repr

/-- How many arguments an option takes. -/
inductive Arity where
  | none
  | one
  | several
deriving DecidableEq, Repr

namespace Flag

def names : Flag → List String
  | help => ["-h", "--help"]
  | receiver => ["-r", "--receiver"]
  | noHelo => ["--no-helo"]
  | strict => ["--temperror-on-dns-error"]
  | output => ["-o", "--output"]
  | nameserver => ["-n", "--nameserver"]
  | timeout => ["-t", "--timeout"]
  | retries => ["--timeout-retries"]
  | version => ["-v", "--version"]
  | debug => ["--debug"]

/-- All options, in the order in which messages list them. -/
def all : List Flag :=
  [help, receiver, noHelo, strict, output, nameserver, timeout, retries, version, debug]

def arity : Flag → Arity
  | help | noHelo | strict | version | debug => .none
  | receiver | timeout | retries => .one
  | output | nameserver => .several

/-- The name of an option in messages. -/
def title (flag : Flag) : String := String.intercalate "/" flag.names

end Flag

/-- Every name with its option. -/
def namedFlags : List (List Char × Flag) :=
  Flag.all.flatMap fun flag => flag.names.map fun name => (name.toList, flag)

/-- The option with exactly a name. -/
def flagNamed? (name : List Char) : Option Flag := namedFlags.lookup name

/-! ### Arguments -/

/-- What an argument is. -/
inductive Piece where
  | plain
  /-- The mark behind which all arguments are plain. -/
  | mark
  | option (name : List Char) (flag : Flag) (explicit : Option (List Char))
  | unknownOption

/-- An argument that may be read as several options. -/
structure Ambiguity where
  argument : String
  names : List String
deriving DecidableEq, Repr

/-- Whether a text is a minus and a number with or without a point, apart from a line end. -/
def looksNegative (s : List Char) : Bool :=
  let s := if s.getLast? = some '\n' then s.dropLast else s
  match s with
  | '-' :: rest =>
    let whole := rest.takeWhile isDigit
    match rest.dropWhile isDigit with
    | [] => !whole.isEmpty
    | '.' :: places => !places.isEmpty && places.all isDigit
    | _ => false
  | _ => false

/-- The options that an argument may be short for: long names by their beginning, up to an equals sign, and
short names with the argument directly behind them. -/
def candidates (s : List Char) : List (List Char × Flag × Option (List Char)) :=
  if ['-', '-'].isPrefixOf s then
    let (start, explicit) := match cutFirst '=' s with
      | some (start, explicit) => (start, some explicit)
      | none => (s, none)
    namedFlags.filterMap fun (name, flag) =>
      if start.isPrefixOf name then some (name, flag, explicit) else none
  else
    namedFlags.filterMap fun (name, flag) =>
      if name = s.take 2 then some (name, flag, some (s.drop 2))
      else if s.isPrefixOf name then some (name, flag, none)
      else none

/-- The option that is named in full, alone or before an equals sign. -/
def fullOption? (s : List Char) : Option Piece :=
  match flagNamed? s with
  | some flag => some (.option s flag none)
  | none => match cutFirst '=' s with
    | none => none
    | some (name, explicit) => (flagNamed? name).map fun flag => .option name flag (some explicit)

/-- What an argument is when it stands before the mark. An argument that begins with a minus but is no option
is plain if it is a negative number or holds a space. -/
def classify (argument : String) : Except Ambiguity Piece :=
  let s := argument.toList
  if s.head? ≠ some '-' || s = ['-'] then .ok .plain
  else match fullOption? s with
    | some piece => .ok piece
    | none => match candidates s with
      | [(name, flag, explicit)] => .ok (.option name flag explicit)
      | [] => .ok (if looksNegative s || s.contains ' ' then .plain else .unknownOption)
      | several => .error ⟨argument, several.map fun (name, _) => String.ofList name⟩

/-- What all arguments are. -/
def classifyAll : List String → Except Ambiguity (List (String × Piece))
  | [] => .ok []
  | argument :: rest =>
    if argument = "--" then .ok ((argument, .mark) :: rest.map ((·, .plain)))
    else do
      let piece ← classify argument
      let later ← classifyAll rest
      pure ((argument, piece) :: later)

end SenderPolicy.CommandLine
