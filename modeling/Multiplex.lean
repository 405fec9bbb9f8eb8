import Multiplex.Main
import Multiplex.Proofs.Channel.Accounts
import Multiplex.Proofs.Channel.FailedSend
import Multiplex.Proofs.Channel.Partings
import Multiplex.Proofs.Channel.Service
import Multiplex.Proofs.Connection.CloseOrder
import Multiplex.Proofs.Connection.Containment
import Multiplex.Proofs.Connection.FailedSend
import Multiplex.Proofs.Connection.Farewell
import Multiplex.Proofs.Connection.RetryAdvice
import Multiplex.Proofs.Connection.Shutdown
import Multiplex.Proofs.Exchange.Outcome
import Multiplex.Proofs.Exchange.Registration
import Multiplex.Proofs.Http.HopByHop
import Multiplex.Proofs.Http.NormalForm
import Multiplex.Proofs.Http.Repetition
import Multiplex.Proofs.Http.Target
import Multiplex.Proofs.Loopback.Agreement
import Multiplex.Proofs.Loopback.Arrival
import Multiplex.Proofs.Loopback.Calls
import Multiplex.Proofs.Loopback.Echo
import Multiplex.Proofs.Loopback.Effects
import Multiplex.Proofs.Loopback.Errand
import Multiplex.Proofs.Loopback.Listeners
import Multiplex.Proofs.Loopback.Mirror
import Multiplex.Proofs.Loopback.Observers
import Multiplex.Proofs.Loopback.Operations
import Multiplex.Proofs.Loopback.Ownership
import Multiplex.Proofs.Loopback.Queue
import Multiplex.Proofs.Loopback.StreamNumbers
import Multiplex.Proofs.Network.Coherence
import Multiplex.Proofs.Network.Collaborators
import Multiplex.Proofs.Network.Delivery
import Multiplex.Proofs.Network.Dispatch
import Multiplex.Proofs.Network.Ends
import Multiplex.Proofs.Network.Handles
import Multiplex.Proofs.Network.Lookup
import Multiplex.Proofs.Network.Release
import Multiplex.Proofs.Network.Sends
import Multiplex.Proofs.Network.Teardown
import Multiplex.Proofs.Network.Upkeep
import Multiplex.Proofs.Pool.Acceptance
import Multiplex.Proofs.Pool.Course
import Multiplex.Proofs.Pool.Dealing
import Multiplex.Proofs.Pool.FailedSend
import Multiplex.Proofs.Pool.Ledger
import Multiplex.Proofs.Pool.Limits
import Multiplex.Proofs.Pool.LoopbackSupply
import Multiplex.Proofs.Pool.Occupancy
import Multiplex.Proofs.Pool.Opening
import Multiplex.Proofs.Pool.Reactions
import Multiplex.Proofs.Pool.Shutdown
import Multiplex.Proofs.Pool.Slots
import Multiplex.Proofs.Pool.Stock
import Multiplex.Proofs.Pool.Tries
import Multiplex.Proofs.Pool.Turns
import Multiplex.Proofs.Run.Notices
import Multiplex.Proofs.Run.Operation
import Multiplex.Proofs.Run.Step
import Multiplex.Proofs.Settings.Confinement
import Multiplex.Proofs.Settings.Defaults
import Multiplex.Proofs.Settings.FileTree
import Multiplex.Proofs.Settings.RoundTrip
import Multiplex.Proofs.Stress.Filling
import Multiplex.Proofs.Stress.Load
import Multiplex.Proofs.Stress.PlainDealings
import Multiplex.Proofs.Stress.Report
import Multiplex.Proofs.Toml.RoundTrip
import Multiplex.Scenario.Run
