import SenderPolicy.Address.Basic
import SenderPolicy.Address.Network
import SenderPolicy.Address.Printer
import SenderPolicy.Address.Reader
import SenderPolicy.Check
import SenderPolicy.CommandLine.Arguments
import SenderPolicy.CommandLine.Folder
import SenderPolicy.CommandLine.Option
import SenderPolicy.CommandLine.Run
import SenderPolicy.CommandLine.ZoneText
import SenderPolicy.Dns.Answer
import SenderPolicy.Dns.Cache
import SenderPolicy.Dns.Client
import SenderPolicy.Dns.Inquiry
import SenderPolicy.Dns.Lookup
import SenderPolicy.Dns.Question
import SenderPolicy.Dns.Zone
import SenderPolicy.Domain
import SenderPolicy.Error
import SenderPolicy.Evaluation.Basic
import SenderPolicy.Evaluation.Expansion
import SenderPolicy.Evaluation.Match
import SenderPolicy.Evaluation.Policy
import SenderPolicy.Macro.Basic
import SenderPolicy.Macro.Reader
import SenderPolicy.Macro.Transform
import SenderPolicy.Main
import SenderPolicy.Number.Binary64
import SenderPolicy.Number.Seconds
import SenderPolicy.Record.Reader
import SenderPolicy.Record.Selection
import SenderPolicy.Report.Basic
import SenderPolicy.Report.Document
import SenderPolicy.Report.Header
import SenderPolicy.Settings
import SenderPolicy.Sorted
import SenderPolicy.Term.Basic
import SenderPolicy.Term.DualCidr
import SenderPolicy.Term.Reader
import SenderPolicy.Text.Blank
import SenderPolicy.Text.Composition
import SenderPolicy.Text.Composition.Table
import SenderPolicy.Text.Cut
import SenderPolicy.Text.Digit
import SenderPolicy.Text.Folded
import SenderPolicy.Text.LetterCase
import SenderPolicy.Text.LetterCase.Table
import SenderPolicy.Text.Numeral
import SenderPolicy.Text.Percent
import SenderPolicy.Text.Printable
import SenderPolicy.Text.Printable.Table
import SenderPolicy.Text.Quoted
import SenderPolicy.Proofs.Composed
import SenderPolicy.Proofs.Decision
import SenderPolicy.Proofs.Definitive
import SenderPolicy.Proofs.Ceiling
import SenderPolicy.Proofs.AddressText
import SenderPolicy.Proofs.Accepted
import SenderPolicy.Proofs.AddressAnswers
import SenderPolicy.Proofs.Faults
import SenderPolicy.Proofs.Metered
import SenderPolicy.Proofs.MissingPolicy
import SenderPolicy.Proofs.CallBound
import SenderPolicy.Proofs.Coherence
import SenderPolicy.Proofs.Lockstep
import SenderPolicy.Proofs.RecordOrder
import SenderPolicy.Proofs.Itemized
import SenderPolicy.Proofs.Strictness
import SenderPolicy.Proofs.VoidCount
import SenderPolicy.Proofs.Unexplained
import SenderPolicy.Proofs.ExplanationCost
import SenderPolicy.Proofs.NullSender
import SenderPolicy.Proofs.Printed
import SenderPolicy.Proofs.LetterCase
import SenderPolicy.Proofs.Scanning
import SenderPolicy.Proofs.ReadTexts
import SenderPolicy.Proofs.Pairing
import SenderPolicy.Proofs.SideBySide
import SenderPolicy.Proofs.PairedChecks
import SenderPolicy.Proofs.PairedClients
import SenderPolicy.Proofs.NameCase
import SenderPolicy.Proofs.HiddenFacts
import SenderPolicy.Proofs.InlineTexts
import SenderPolicy.Proofs.HeaderLines
import SenderPolicy.Proofs.TermOrder
import SenderPolicy.Proofs.Failures
import SenderPolicy.Proofs.Nesting
import SenderPolicy.Proofs.Words
import SenderPolicy.Proofs.Pattern
import SenderPolicy.Proofs.Grammar
import SenderPolicy.Proofs.Runnable
import SenderPolicy.Proofs.SteadyAnswers
import SenderPolicy.Proofs.LeadingBits
import SenderPolicy.Proofs.ConfirmedNames
import SenderPolicy.Proofs.MacroBodies
import SenderPolicy.Proofs.MacroGrammar
import SenderPolicy.Proofs.Concatenation
import SenderPolicy.Proofs.Retries
import SenderPolicy.Proofs.CidrSuffix
import SenderPolicy.Proofs.NormalForm
import SenderPolicy.Proofs.NameLabels
import SenderPolicy.Proofs.PercentText
import SenderPolicy.Proofs.KeptParts
import SenderPolicy.Proofs.ReverseNames
import SenderPolicy.Proofs.OffendingTerm
import SenderPolicy.Proofs.LeadingLabels
import SenderPolicy.Proofs.TargetLength
