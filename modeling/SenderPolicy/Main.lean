import SenderPolicy.CommandLine.Run
import SenderPolicy.CommandLine.ZoneText
import SenderPolicy.Settings

/-! The command line program. Questions are answered from a zone on standard input; the environment gives the
settings, and the time of the check in seconds. -/

namespace SenderPolicy.CommandLine

open Dns

/-- The variable of the environment that gives the time of the check. -/
def clockVariable : String := "CHECK_TIME"

/-- The lines of a stream. -/
partial def readLines (stream : IO.FS.Stream) : IO (List String) := do
  let line ← stream.getLine
  if line.isEmpty then pure [] else return line :: (← readLines stream)

/-- The variables of the environment that have one of some names. -/
def readEnvironment (names : List String) : IO (List (String × String)) :=
  names.filterMapM fun name => do return (← IO.getEnv name).map (name, ·)

/-- Does something to the outside. -/
def perform : Effect → IO Unit
  | .print text => IO.print text
  | .write path content => IO.FS.writeFile path content
  | .reportError message => IO.eprintln s!"ERROR: {message}"

/-- Runs the check that a request asks for, with some settings at some time. -/
def runRequest (request : Request) (settings : Settings) (clock : Instant) : IO UInt32 := do
  let zone := readZone (← readLines (← IO.getStdin))
  let client : Client := ⟨zone.resolver, clock, request.options, true⟩
  let cache : Cache := ⟨settings.dnsCacheLength, settings.dnsCacheAge, []⟩
  match (client.run (request.inquiry settings.limits clock) ⟨cache, []⟩).1 with
  | .error e =>
    IO.eprintln s!"ERROR: {e.message}"
    return 1
  | .ok report =>
    (request.effects report).forM perform
    return 0

/-- The program. -/
def run (arguments : List String) : IO UInt32 := do
  match readArguments arguments with
  | .error (.usage e) =>
    IO.eprintln (usageLine e)
    return 2
  | .error .help =>
    IO.println s!"{programName} [options] ip sender helo"
    Flag.all.forM fun flag => IO.println s!"  {flag.title}"
    return 0
  | .error .version =>
    IO.println programVersion
    return 0
  | .ok request =>
    let environment ← readEnvironment (clockVariable :: Settings.variableNames)
    match Settings.ofEnvironment environment, Settings.read environment clockVariable 0 with
    | .ok settings, .ok clock => runRequest request settings (.whole clock)
    | .error e, _ | _, .error e =>
      IO.eprintln s!"ERROR: {e.message}"
      return 1

end SenderPolicy.CommandLine

def main (arguments : List String) : IO UInt32 :=
  SenderPolicy.CommandLine.run arguments
