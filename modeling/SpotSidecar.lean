import SpotSidecar.Safety.ClientIds
import SpotSidecar.Safety.Matching
import SpotSidecar.Safety.Targets
import SpotSidecar.Safety.Writes
import SpotSidecar.Safety.Protected
import SpotSidecar.Safety.Answers
import SpotSidecar.Safety.Closed
import SpotSidecar.PairControl.Controller
import SpotSidecar.PairControl.Moves
import SpotSidecar.PairControl.Switching
import SpotSidecar.PairControl.Projections
import SpotSidecar.PairControl.Stages
import SpotSidecar.Supervisor.Signals
import SpotSidecar.Adapter.Owner
import SpotSidecar.Supervisor.Commands
import SpotSidecar.Supervisor.Loop
import SpotSidecar.Safety.Gate
import SpotSidecar.Interaction.Embed
import SpotSidecar.Safety.Shut
import SpotSidecar.Supervisor.Oversight
import SpotSidecar.Supervisor.Guarded
import SpotSidecar.Supervisor.StreamPause
import SpotSidecar.Supervisor.LeaseLatch
import SpotSidecar.Supervisor.Scripted
import SpotSidecar.Supervisor.Claims
import SpotSidecar.Supervisor.Replays
import SpotSidecar.Safety.Ward
import SpotSidecar.Safety.Exposure
import SpotSidecar.Safety.Dust
import SpotSidecar.Safety.Fills
import SpotSidecar.Safety.Readings
import SpotSidecar.Safety.Stops
import SpotSidecar.Supervisor.AutoTrail
import SpotSidecar.Telegram.Poll
import SpotSidecar.Telegram.Delivery
import SpotSidecar.Evidence.Environment
import SpotSidecar.Evidence.RiskPolicy
import SpotSidecar.Evidence.Binding
import SpotSidecar.Interaction.Eval
import SpotSidecar.Supervisor.Orphans
import SpotSidecar.Safety.Crashes
import SpotSidecar.Safety.Idempotence
import SpotSidecar.MoneyFlow.Quota
import SpotSidecar.Collections.Largest
import SpotSidecar.Telegram.ExitResult
import SpotSidecar.Collections.Feed
import SpotSidecar.MoneyFlow.SpotStream
import SpotSidecar.Risk.Guard
import SpotSidecar.Telegram.Notifier
import SpotSidecar.UserStream.Dispatch
import SpotSidecar.UserStream.Reconnect
import SpotSidecar.Safety.Geometry
import SpotSidecar.Filters.Legs
import SpotSidecar.Filters.Checks
import SpotSidecar.Filters.Capacity
import SpotSidecar.Filters.Soundness
import SpotSidecar.Filters.Credit
import SpotSidecar.Safety.Informed
import SpotSidecar.Collections.Dict
import SpotSidecar.Telegram.Callbacks
import SpotSidecar.Adapter.ClientOrderIds
import SpotSidecar.Interaction.Transaction
import SpotSidecar.State.LedgerCalls
import SpotSidecar.State.Replay
import SpotSidecar.Deploy.EnvFile
import SpotSidecar.Deploy.Readers
import SpotSidecar.Simulation.Adapter
import SpotSidecar.Simulation.Process
import SpotSidecar.Simulation.Agreement
import SpotSidecar.Simulation.Admission
import SpotSidecar.Json.Text
import SpotSidecar.Json.Value
import SpotSidecar.Json.Number
import SpotSidecar.Json.Strings
import SpotSidecar.Json.Write
import SpotSidecar.Json.Read
import SpotSidecar.Json.RoundTrip
import SpotSidecar.Bus.Envelope
import SpotSidecar.Bus.RoundTrip
import SpotSidecar.Safety.Oversell
import SpotSidecar.Risk.Allow
import SpotSidecar.Audit.Log
import SpotSidecar.Bus.Seam
import SpotSidecar.Storage.AtomicWrite
import SpotSidecar.Audit.Redaction
import SpotSidecar.Collections.History
import SpotSidecar.Telegram.Broker
import SpotSidecar.Telegram.StablePanel
import SpotSidecar.Telegram.Owner
import SpotSidecar.MoneyFlow.Context
import SpotSidecar.Json.Characters
import SpotSidecar.Json.Pretty
import SpotSidecar.PairControl.Registry
import SpotSidecar.PairControl.Markets
import SpotSidecar.Exchange.Public
import SpotSidecar.Evidence.Signature
