import CallScript.Script.Context
import CallScript.Script.Lines
import CallScript.Rpc.Client
import CallScript.Rpc.Rehearsed
import CallScript.Run.Runner
import CallScript.Session.Channel
import CallScript.Settings.Scenario
import CallScript.CommandLine.Standard
import CallScript.Main
import CallScript.Proofs.Rpc.Recording
import CallScript.Proofs.Rpc.Transcript
import CallScript.Proofs.Rpc.Correlation
import CallScript.Proofs.Run.Course
import CallScript.Proofs.Run.DataFlow
import CallScript.Proofs.Run.WireTrace
import CallScript.Proofs.Rpc.Pieces
import CallScript.Proofs.Rpc.Chunking
import CallScript.Proofs.Run.Tally
import CallScript.Proofs.Script.RoundTrip
import CallScript.Proofs.Script.Payload
import CallScript.Proofs.Rpc.Replies
import CallScript.Proofs.Run.Lockstep
import CallScript.Proofs.Run.Machine
import CallScript.Proofs.Run.Policies
import CallScript.Proofs.Script.References
import CallScript.Proofs.Run.Confinement
import CallScript.Proofs.Rpc.Cuts
import CallScript.Proofs.Run.Watching
import CallScript.Proofs.Run.Interruption
import CallScript.Proofs.Script.Variables
import CallScript.Proofs.Demo.Echo
import CallScript.Proofs.Run.Legality
import CallScript.Proofs.Rpc.Classification
import CallScript.Proofs.Rpc.Queue
import CallScript.Proofs.Number.Rounding
import CallScript.Proofs.Number.Decimal
import CallScript.Proofs.Script.IntegerFields
import CallScript.Proofs.Script.Splitting
import CallScript.Proofs.Number.Overflow
import CallScript.Proofs.Script.Parameters
import CallScript.Proofs.Script.ScalarTokens
import CallScript.Proofs.Script.WrittenValues
import CallScript.Proofs.Script.Substitution
import CallScript.Proofs.Script.ParameterOrder
import CallScript.Proofs.Script.SurfaceForm
import CallScript.Proofs.Number.Integers
import CallScript.Proofs.Script.Schemas
import CallScript.Proofs.Script.Declarations
import CallScript.Proofs.Script.WireForm
import CallScript.Proofs.Script.Display
import CallScript.Proofs.Run.ShownCalls
import CallScript.Proofs.Json.Printed
import CallScript.Proofs.Rpc.Attempts
import CallScript.Proofs.Rpc.Outgoing
import CallScript.Proofs.Rpc.Bounds
import CallScript.Proofs.Rpc.Restoration
import CallScript.Proofs.Run.RecordShape
import CallScript.Proofs.Run.Verdicts
import CallScript.Proofs.Rpc.Budget
import CallScript.Proofs.CommandLine.Plans
import CallScript.Proofs.Settings.Layers
import CallScript.Proofs.Settings.Anchoring
import CallScript.Proofs.Session.Log
import CallScript.Proofs.Session.Lifecycle
import CallScript.Proofs.Run.Success
import CallScript.Proofs.CommandLine.ExitStatus
