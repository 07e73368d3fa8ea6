import LineDebugger.Breakpoints
import LineDebugger.Command
import LineDebugger.CommandLine
import LineDebugger.Config
import LineDebugger.Console
import LineDebugger.Decimal.Shortest
import LineDebugger.Engine.Advance
import LineDebugger.Engine.Basic
import LineDebugger.Error
import LineDebugger.Event
import LineDebugger.Interpreter
import LineDebugger.Json.Error
import LineDebugger.Json.Number
import LineDebugger.Json.Reader
import LineDebugger.Json.Record
import LineDebugger.Json.Skip
import LineDebugger.Json.String
import LineDebugger.Json.TextError
import LineDebugger.Json.Token
import LineDebugger.Json.Writer
import LineDebugger.Log.Entry
import LineDebugger.Log.Filter
import LineDebugger.Main
import LineDebugger.Memory
import LineDebugger.Outcome
import LineDebugger.Program.Basic
import LineDebugger.Program.Error
import LineDebugger.Program.Frame
import LineDebugger.Program.FunctionTable
import LineDebugger.Program.Line
import LineDebugger.Program.Statement
import LineDebugger.Proofs.Command.Grammar
import LineDebugger.Proofs.Console.Agreement
import LineDebugger.Proofs.Console.AwaitedLine
import LineDebugger.Proofs.Console.Conversation
import LineDebugger.Proofs.Engine.Bounds
import LineDebugger.Proofs.Engine.Control
import LineDebugger.Proofs.Engine.DepthLimit
import LineDebugger.Proofs.Engine.Execution
import LineDebugger.Proofs.Engine.Failure
import LineDebugger.Proofs.Engine.Headers
import LineDebugger.Proofs.Engine.Lockstep
import LineDebugger.Proofs.Engine.Outline
import LineDebugger.Proofs.Engine.Reachable
import LineDebugger.Proofs.Engine.Recursion
import LineDebugger.Proofs.Engine.Region
import LineDebugger.Proofs.Engine.Step
import LineDebugger.Proofs.Engine.Steps
import LineDebugger.Proofs.Engine.Termination
import LineDebugger.Proofs.Interpreter
import LineDebugger.Proofs.Interpreter.Subtraction
import LineDebugger.Proofs.Json.Readers
import LineDebugger.Proofs.Json.Scalars
import LineDebugger.Proofs.Memory
import LineDebugger.Proofs.Memory.Listing
import LineDebugger.Proofs.Program.Grammar
import LineDebugger.Proofs.Program.Layout
import LineDebugger.Proofs.Program.Outline
import LineDebugger.Proofs.Program.SourceLines
import LineDebugger.Proofs.Program.WrittenForm
import LineDebugger.Proofs.Server.Framing
import LineDebugger.Proofs.Server.Requests
import LineDebugger.Proofs.Server.Wire
import LineDebugger.Proofs.Session.Breakpoints
import LineDebugger.Proofs.Session.Canonical
import LineDebugger.Proofs.Session.Command
import LineDebugger.Proofs.Session.DepthLimit
import LineDebugger.Proofs.Session.History
import LineDebugger.Proofs.Session.Inputs
import LineDebugger.Proofs.Session.Inspection
import LineDebugger.Proofs.Session.Listings
import LineDebugger.Proofs.Session.Loading
import LineDebugger.Proofs.Session.MissingVariable
import LineDebugger.Proofs.Session.Origin
import LineDebugger.Proofs.Session.Outline
import LineDebugger.Proofs.Session.Printing
import LineDebugger.Proofs.Session.SingleSteps
import LineDebugger.Proofs.Session.StartingOver
import LineDebugger.Proofs.Session.StepOver
import LineDebugger.Proofs.Session.StepOverFlat
import LineDebugger.Proofs.Session.Stops
import LineDebugger.Proofs.Session.Termination
import LineDebugger.Proofs.Structured.Agreement
import LineDebugger.Proofs.Structured.Basic
import LineDebugger.Proofs.Structured.Machine
import LineDebugger.Proofs.Structured.Placement
import LineDebugger.Proofs.Text.Cutting
import LineDebugger.Proofs.Text.InputLine
import LineDebugger.Proofs.Text.Numeral
import LineDebugger.Proofs.Text.Rows
import LineDebugger.Proofs.Text.Runs
import LineDebugger.Proofs.Text.Words
import LineDebugger.Server.Basic
import LineDebugger.Server.Message
import LineDebugger.Session
import LineDebugger.Text.ControlSequence
import LineDebugger.Text.InputLine
import LineDebugger.Text.Numeral
import LineDebugger.Text.Printable
import LineDebugger.Text.Quoted
import LineDebugger.Text.ShellWords
import LineDebugger.Text.Words
