import ScriptedInput.CodeMap
import ScriptedInput.Registration
import ScriptedInput.Event
import ScriptedInput.CodeNames
import ScriptedInput.IoError
import ScriptedInput.Text.Blank
import ScriptedInput.Text.Quoted
import ScriptedInput.Text.Utf8
import ScriptedInput.Text.Numeral
import ScriptedInput.Script.Source
import ScriptedInput.Script.Dialect
import ScriptedInput.Script.Location
import ScriptedInput.Decimal.Binary64
import ScriptedInput.Decimal.Shortest
import ScriptedInput.Json.Value
import ScriptedInput.Json.Printer
import ScriptedInput.Json.Reader
import ScriptedInput.Script.CommandReader
import ScriptedInput.Script.ParseError
import ScriptedInput.Script.Lines
import ScriptedInput.Script.LineFields
import ScriptedInput.Script.Recording
import ScriptedInput.Script.CommandStream
import ScriptedInput.Script.Reading
import ScriptedInput.Session
import ScriptedInput.Device.Bench
import ScriptedInput.Device.HandleTable
import ScriptedInput.Backend.Recorder
import ScriptedInput.Backend.Trace
import ScriptedInput.Backend.Uinput.Request
import ScriptedInput.Backend.Uinput.Handle
import ScriptedInput.CommandLine.Options
import ScriptedInput.CommandLine.Replay
import ScriptedInput.Main
import ScriptedInput.Proofs.Device.Closing
import ScriptedInput.Proofs.Ensures
import ScriptedInput.Proofs.Device.Commands
import ScriptedInput.Proofs.Session.Custody
import ScriptedInput.Proofs.Backend.Recorder
import ScriptedInput.Proofs.Session.Lifecycle
import ScriptedInput.Proofs.Backend.CutShort
import ScriptedInput.Proofs.Session.Failure
import ScriptedInput.Proofs.Session.Separation
import ScriptedInput.Proofs.Session.NormalForm
import ScriptedInput.Proofs.Recording.Framing
import ScriptedInput.Proofs.Recording.Pace
import ScriptedInput.Proofs.Recording.ReadBack
import ScriptedInput.Proofs.Commands.ReadBack
import ScriptedInput.Proofs.Script.Opening
import ScriptedInput.Proofs.Script.Guarded
import ScriptedInput.Proofs.Recording.FirstLine
import ScriptedInput.Proofs.Script.Dialects
import ScriptedInput.Proofs.Json.Cut
import ScriptedInput.Proofs.Script.Pieces
import ScriptedInput.Proofs.Commands.Pieces
import ScriptedInput.Proofs.Recording.CutLines
import ScriptedInput.Proofs.Recording.Pieces
import ScriptedInput.Proofs.Script.Truncation
import ScriptedInput.Proofs.Session.Simulation
import ScriptedInput.Proofs.Backend.Annotated
import ScriptedInput.Proofs.Backend.Uinput.Requests
import ScriptedInput.Proofs.Script.Sniffing
import ScriptedInput.Proofs.Script.Alike
import ScriptedInput.Proofs.Script.LeadingBreaks
import ScriptedInput.Proofs.Backend.Uinput.KernelDevices
import ScriptedInput.Proofs.Backend.Uinput.Willing
import ScriptedInput.Proofs.Backend.Uinput.Records
import ScriptedInput.Proofs.Json.Members
import ScriptedInput.Proofs.Backend.Trace.Fields
import ScriptedInput.Proofs.Backend.Trace.ReadBack
import ScriptedInput.Proofs.Backend.DryRun
import ScriptedInput.Proofs.Backend.Trace.FullSink
import ScriptedInput.Proofs.Backend.Trace.Lines
import ScriptedInput.Proofs.Session.ClosedDevices
import ScriptedInput.Proofs.Session.Clocks
import ScriptedInput.Proofs.Backend.Uinput.Faults
import ScriptedInput.Proofs.Backend.Uinput.Creation
import ScriptedInput.Proofs.Backend.Uinput.Replies
import ScriptedInput.Proofs.Backend.Uinput.Batches
import ScriptedInput.Proofs.Device.HandleTable
import ScriptedInput.Proofs.Backend.Uinput.Destroyed
import ScriptedInput.Proofs.Device.Arena
import ScriptedInput.Proofs.Device.InsertionOrder
import ScriptedInput.Proofs.Json.OwnText
import ScriptedInput.Proofs.Json.Inside
import ScriptedInput.Proofs.Commands.Grouping
import ScriptedInput.Proofs.Commands.Location
import ScriptedInput.Proofs.Commands.SpellingInvariance
import ScriptedInput.Proofs.Commands.NumericText
import ScriptedInput.Proofs.Recording.FaultLocation
import ScriptedInput.Proofs.Recording.Relaid
import ScriptedInput.Proofs.Commands.WholeNumbers
import ScriptedInput.Proofs.Recording.MaskBits
import ScriptedInput.Proofs.Recording.EventGrammar
import ScriptedInput.Proofs.Commands.BusNames
import ScriptedInput.Proofs.Recording.Guarded.Reader
