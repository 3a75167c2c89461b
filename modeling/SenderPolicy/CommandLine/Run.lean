import SenderPolicy.CommandLine.Arguments
import SenderPolicy.CommandLine.Folder
import SenderPolicy.Report.Basic

/-! What the command line program does: it reads its arguments, checks a client and prints the report or
writes it into files. -/

namespace SenderPolicy.CommandLine

open Dns

/-- The name of the program. -/
def programName : String := "checkspf"

/-- The version of the program. -/
def programVersion : String := "1.0.0"

/-- Something the program does to the outside. -/
inductive Effect where
  | print (text : String)
  | write (path content : String)
  | reportError (message : String)
deriving DecidableEq, Repr

/-- The receiver that a request speaks of. -/
def Request.receiverFor (request : Request) (limits : Limits) (clock : Instant) : Receiver :=
  ⟨request.receiver, request.strict, limits, clock⟩

/-- How a request wants questions to be put. -/
def Request.options (request : Request) : Options :=
  { nameservers := request.nameservers, timeout := .quantity request.timeout, retries := request.retries }

/-- The check that a request asks for. -/
def Request.inquiry (request : Request) (limits : Limits) (clock : Instant) : Inquiry (Except Fault Report) :=
  Report.inquiry (request.receiverFor limits clock) ⟨request.ip.text, request.sender, request.helo⟩ request.withHelo

/-- Whether a report may be written to a path. -/
def isReportPath (path : String) : Bool :=
  ".json".toList.isSuffixOf (Text.lower path).toList

/-- What is done with a report: it is printed, or written to every path that may hold it. -/
def Request.effects (request : Request) (report : Report) : List Effect :=
  let text := report.document.render
  match request.output with
  | none => [.print (text ++ "\n")]
  | some paths => paths.map fun path =>
    if isReportPath path then .write path text else .reportError s!"Output path {path} must end in .json"

/-- What the outside has got of a program: the text printed, the files and the errors reported. -/
structure Output where
  printed : String := ""
  files : Folder := []
  errors : List String := []

/-- Does something to the outside. -/
def Output.add (output : Output) : Effect → Except WriteError Output
  | .print text => .ok { output with printed := output.printed ++ text }
  | .write path content => (output.files.write path content).map fun files => { output with files }
  | .reportError message => .ok { output with errors := output.errors ++ [message] }

/-- The line that tells of wrong arguments. -/
def usageLine (e : UsageError) : String := s!"{programName}: error: {e.message}"

end SenderPolicy.CommandLine
