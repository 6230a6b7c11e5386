import AnalyzerClient.Text.Blank
import AnalyzerClient.Text.Numeral
import AnalyzerClient.Text.Line
import AnalyzerClient.Binary64.Shortest
import AnalyzerClient.Json.Printer
import AnalyzerClient.Json.Lexeme
import AnalyzerClient.Json.Draft
import AnalyzerClient.Json.Decoder
import AnalyzerClient.FileTree
import AnalyzerClient.Process
import AnalyzerClient.Unicode.Normal
import AnalyzerClient.Uri.Punycode
import AnalyzerClient.Uri.Domain
import AnalyzerClient.Uri
import AnalyzerClient.Settings.Config
import AnalyzerClient.Debugger.Runtime
import AnalyzerClient.Runnable.Wire
import AnalyzerClient.Runnable.Command
import AnalyzerClient.Runnable.BuildOutput
import AnalyzerClient.Protocol.Frame
import AnalyzerClient.Protocol.Message
import AnalyzerClient.Protocol.Params
import AnalyzerClient.Server.Version
import AnalyzerClient.Server.Launch
import AnalyzerClient.Terminal.Shell
import AnalyzerClient.Terminal.Session
import AnalyzerClient.Terminal.Slot
import AnalyzerClient.Runnable.Workbench
import AnalyzerClient.Runnable.Launch
import AnalyzerClient.Runnable.Select
import AnalyzerClient.Runnable.Rehearsal
import AnalyzerClient.Protocol.Edit
import AnalyzerClient.Protocol.Diagnostic
import AnalyzerClient.Protocol.Notice
import AnalyzerClient.Protocol.Capabilities
import AnalyzerClient.Protocol.Request
import AnalyzerClient.Environment
import AnalyzerClient.Machine
import AnalyzerClient.Client.Basic
import AnalyzerClient.Client.Reader
import AnalyzerClient.Server.Script
import AnalyzerClient.Client.Exchange
import AnalyzerClient.Client.Lifecycle
import AnalyzerClient.CommandLine.Args
import AnalyzerClient.CommandLine.Failure
import AnalyzerClient.CommandLine.Session
import AnalyzerClient.CommandLine.Console
import AnalyzerClient.CommandLine.Program
import AnalyzerClient.Main
import AnalyzerClient.Proofs.Dict
import AnalyzerClient.Proofs.Settings.Layers
import AnalyzerClient.Proofs.Settings.History
import AnalyzerClient.Proofs.Client.Traffic
import AnalyzerClient.Proofs.Client.Effect
import AnalyzerClient.Proofs.Client.Ledger
import AnalyzerClient.Proofs.Client.Correlation
import AnalyzerClient.Proofs.Client.Starts
import AnalyzerClient.Proofs.Client.Closing
import AnalyzerClient.Proofs.Json.Numeral
import AnalyzerClient.Proofs.Json.Layout
import AnalyzerClient.Proofs.Json.Quote
import AnalyzerClient.Proofs.Json.RoundTrip
import AnalyzerClient.Proofs.Json.TooDeep
import AnalyzerClient.Proofs.Json.Readable
import AnalyzerClient.Proofs.Path
import AnalyzerClient.Proofs.Settings.Comment
import AnalyzerClient.Proofs.FileTree
import AnalyzerClient.Proofs.Settings.Saved
import AnalyzerClient.Proofs.Settings.Loading
import AnalyzerClient.Proofs.Settings.Durable
import AnalyzerClient.Proofs.CommandLine.SetSetting
import AnalyzerClient.Proofs.Protocol.Frame
import AnalyzerClient.Proofs.Client.Exchange
import AnalyzerClient.Proofs.Client.Simulation
import AnalyzerClient.Proofs.Protocol.Conversation
import AnalyzerClient.Proofs.Runnable.Scanning
import AnalyzerClient.Proofs.Runnable.Debugging
import AnalyzerClient.Proofs.Json.Token
import AnalyzerClient.Proofs.Json.Spelling
import AnalyzerClient.Proofs.Json.Document
import AnalyzerClient.Proofs.Settings.Filler
import AnalyzerClient.Proofs.Terminal.Custody
import AnalyzerClient.Proofs.Client.Tidings
import AnalyzerClient.Proofs.Client.Streams
import AnalyzerClient.Proofs.Client.Wiring
import AnalyzerClient.Proofs.Client.Coherence
import AnalyzerClient.Proofs.Client.Span
import AnalyzerClient.Proofs.Client.Newcomer
import AnalyzerClient.Proofs.Client.Introduction
import AnalyzerClient.Proofs.Client.Succession
import AnalyzerClient.Proofs.Client.Departure
import AnalyzerClient.Proofs.Client.Lifetime
import AnalyzerClient.Proofs.Protocol.Truncation
import AnalyzerClient.Proofs.Protocol.Arrival
import AnalyzerClient.Proofs.Client.Answers
import AnalyzerClient.Proofs.Client.Twins
import AnalyzerClient.Proofs.Client.Junk
import AnalyzerClient.Proofs.Runnable.Rush
import AnalyzerClient.Proofs.Settings.FailedWrite
import AnalyzerClient.Proofs.Settings.Honoured
import AnalyzerClient.Proofs.Runnable.Choosing
import AnalyzerClient.Proofs.Client.Alone
import AnalyzerClient.Proofs.Client.Prompt
import AnalyzerClient.Proofs.Client.Session
import AnalyzerClient.Proofs.CommandLine.Asking
import AnalyzerClient.Proofs.CommandLine.Overflow
import AnalyzerClient.Proofs.CommandLine.Discipline
import AnalyzerClient.Proofs.Json.Record
import AnalyzerClient.Proofs.Json.Order
import AnalyzerClient.Proofs.Json.Codec
import AnalyzerClient.Proofs.Protocol.Location
import AnalyzerClient.Proofs.Runnable.Wire
import AnalyzerClient.Proofs.Settings.Registered
import AnalyzerClient.Proofs.Runnable.Noise
import AnalyzerClient.Proofs.Runnable.Draining
import AnalyzerClient.Proofs.Runnable.Inference
import AnalyzerClient.Proofs.Runnable.Sections
import AnalyzerClient.Proofs.Runnable.Separation
import AnalyzerClient.Proofs.Text.Words
import AnalyzerClient.Proofs.Debugger.Template
import AnalyzerClient.Proofs.Runnable.ProgramArgs
import AnalyzerClient.Proofs.Runnable.Typed
import AnalyzerClient.Proofs.Binary64
import AnalyzerClient.Proofs.Settings.Pieces
import AnalyzerClient.Proofs.Json.Accepted
import AnalyzerClient.Proofs.Settings.Spacing
import AnalyzerClient.Proofs.Json.Located
import AnalyzerClient.Proofs.Settings.FaultLine
import AnalyzerClient.Proofs.Terminal.Line
import AnalyzerClient.Proofs.Terminal.Delivery
import AnalyzerClient.Proofs.Client.Response
import AnalyzerClient.Proofs.Server.Version
import AnalyzerClient.Proofs.Server.Numbers
import AnalyzerClient.Proofs.Protocol.Declared
import AnalyzerClient.Proofs.Client.Breakdown
import AnalyzerClient.Proofs.CommandLine.Coordinates
import AnalyzerClient.Proofs.Settings.Stripped
import AnalyzerClient.Proofs.Server.Search
import AnalyzerClient.Proofs.Client.Agreement
import AnalyzerClient.Proofs.Client.Leftover
