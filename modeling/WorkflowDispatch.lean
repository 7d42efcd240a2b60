import WorkflowDispatch.Action
import WorkflowDispatch.Binary64.Basic
import WorkflowDispatch.Binary64.Fixed
import WorkflowDispatch.Binary64.Reader
import WorkflowDispatch.Binary64.Shortest
import WorkflowDispatch.Bindings
import WorkflowDispatch.Client
import WorkflowDispatch.Client.Operation
import WorkflowDispatch.CommandLine.Invocation
import WorkflowDispatch.CommandLine.Word
import WorkflowDispatch.EnvFile.Read
import WorkflowDispatch.EnvFile.Reference
import WorkflowDispatch.EnvFile.Statement
import WorkflowDispatch.Failure
import WorkflowDispatch.Json.Basic
import WorkflowDispatch.Json.OfValue
import WorkflowDispatch.Json.Writer
import WorkflowDispatch.Log.Incident
import WorkflowDispatch.Log.Level
import WorkflowDispatch.Log.Loggers
import WorkflowDispatch.Log.Record
import WorkflowDispatch.Log.Redaction
import WorkflowDispatch.Network
import WorkflowDispatch.Run.Basic
import WorkflowDispatch.Run.Command
import WorkflowDispatch.Run.Example
import WorkflowDispatch.Settings.Basic
import WorkflowDispatch.Settings.Check
import WorkflowDispatch.Settings.Field
import WorkflowDispatch.Settings.Load
import WorkflowDispatch.Settings.Source
import WorkflowDispatch.Target
import WorkflowDispatch.Template.Conversion
import WorkflowDispatch.Template.Directive
import WorkflowDispatch.Template.Format
import WorkflowDispatch.Text.Blank
import WorkflowDispatch.Text.Case
import WorkflowDispatch.Text.Case.Table
import WorkflowDispatch.Text.Digit
import WorkflowDispatch.Text.Numeral
import WorkflowDispatch.Text.Printable
import WorkflowDispatch.Text.Printable.Table
import WorkflowDispatch.Text.Quoted
import WorkflowDispatch.Text.Stretch
import WorkflowDispatch.Text.Utf8
import WorkflowDispatch.Timestamp
import WorkflowDispatch.Trigger
import WorkflowDispatch.Value.Basic
import WorkflowDispatch.Value.Item
import WorkflowDispatch.Value.Text
import WorkflowDispatch.Main
import WorkflowDispatch.Proofs.Action
import WorkflowDispatch.Proofs.Address
import WorkflowDispatch.Proofs.EnvFile.References
import WorkflowDispatch.Proofs.Exchange
import WorkflowDispatch.Proofs.Json.Reader
import WorkflowDispatch.Proofs.Json.RoundTrip
import WorkflowDispatch.Proofs.Json.Spelling
import WorkflowDispatch.Proofs.Json.Text
import WorkflowDispatch.Proofs.Result
import WorkflowDispatch.Proofs.Run.Calls
import WorkflowDispatch.Proofs.Run.Confidentiality
import WorkflowDispatch.Proofs.Run.Dispatch
import WorkflowDispatch.Proofs.Run.ExitCode
import WorkflowDispatch.Proofs.Run.Preview
import WorkflowDispatch.Proofs.Settings.Credentials
import WorkflowDispatch.Proofs.Settings.Loaded
import WorkflowDispatch.Proofs.Text.Numeral
import WorkflowDispatch.Proofs.Text.Trim
import WorkflowDispatch.Proofs.Binary64.Value
import WorkflowDispatch.Proofs.Settings.Invariant
import WorkflowDispatch.Proofs.Run.Connection
import WorkflowDispatch.Proofs.Run.Closing
import WorkflowDispatch.Proofs.Run.Ending
import WorkflowDispatch.Proofs.Json.Occurrence
import WorkflowDispatch.Proofs.Log.Redaction
import WorkflowDispatch.Proofs.Settings.Resolution
import WorkflowDispatch.Proofs.Settings.Variables
import WorkflowDispatch.Proofs.Run.Example
import WorkflowDispatch.Proofs.Run.Release
import WorkflowDispatch.Proofs.Run.Events
import WorkflowDispatch.Proofs.Run.Simulation
import WorkflowDispatch.Proofs.Client.Operation
import WorkflowDispatch.Proofs.Binary64.Rounding
import WorkflowDispatch.Proofs.Run.Threshold
import WorkflowDispatch.Proofs.Binary64.Shortest
import WorkflowDispatch.Proofs.Binary64.Layout
import WorkflowDispatch.Proofs.Json.OneLine
import WorkflowDispatch.Proofs.Json.Depiction
import WorkflowDispatch.Proofs.Log.Line
import WorkflowDispatch.Proofs.EnvFile.Quoted
import WorkflowDispatch.Proofs.Run.SettingsFile
import WorkflowDispatch.Proofs.CommandLine.Reading
import WorkflowDispatch.Proofs.Run.Arguments
import WorkflowDispatch.Proofs.Text.Utf8
import WorkflowDispatch.Proofs.Run.Diagnostic
import WorkflowDispatch.Proofs.Client.Separation
import WorkflowDispatch.Proofs.Settings.Complaints
import WorkflowDispatch.Proofs.Text.Lines
import WorkflowDispatch.Proofs.Run.Refusal
import WorkflowDispatch.Proofs.Json.Keys
import WorkflowDispatch.Proofs.Run.Outcome
import WorkflowDispatch.Proofs.Log.Keys
import WorkflowDispatch.Proofs.Target
import WorkflowDispatch.Proofs.Run.Document
import WorkflowDispatch.Proofs.Settings.BaseUrl
import WorkflowDispatch.Proofs.Log.Mapping
import WorkflowDispatch.Proofs.Timestamp
import WorkflowDispatch.Proofs.Log.Chronology
import WorkflowDispatch.Proofs.Log.Configuration
