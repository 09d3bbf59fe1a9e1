import StandbyStream.Main
import StandbyStream.Parameters.Documents
import StandbyStream.Engine.Recorder
import StandbyStream.Topology.Chains
import StandbyStream.Proofs.Player.Steps
import StandbyStream.Proofs.Player.Run
import StandbyStream.Proofs.Engine.Tape
import StandbyStream.Proofs.Topology.Build
import StandbyStream.Proofs.Player.Untaped
import StandbyStream.Proofs.Player.Course
import StandbyStream.Proofs.Player.Chronicle
import StandbyStream.Proofs.Player.Delivery
import StandbyStream.Proofs.Station.Run
import StandbyStream.Proofs.Station.Ledger
import StandbyStream.Proofs.Station.Restart
import StandbyStream.Proofs.Station.Untaped
import StandbyStream.Proofs.Station.Refusal
import StandbyStream.Proofs.Frame.Queue
import StandbyStream.Proofs.Player.Turn
import StandbyStream.Proofs.Player.Situation
import StandbyStream.Proofs.Player.Demand
import StandbyStream.Proofs.Player.Agreement
import StandbyStream.Proofs.Player.Failover
import StandbyStream.Proofs.Player.Rest
import StandbyStream.Proofs.Player.Stop
import StandbyStream.Proofs.Player.Mishap
import StandbyStream.Proofs.Player.Heeding
import StandbyStream.Proofs.Player.Hearing
import StandbyStream.Proofs.Player.Advance
import StandbyStream.Proofs.Player.Supply
import StandbyStream.Proofs.Station.Turn
import StandbyStream.Proofs.Station.Parameters
import StandbyStream.Proofs.Station.Standstill
import StandbyStream.Proofs.Checks
import StandbyStream.Proofs.Topology.Graph
import StandbyStream.Proofs.Topology.Ordering
import StandbyStream.Proofs.Topology.Trail
import StandbyStream.Proofs.Topology.Walk
import StandbyStream.Proofs.Topology.Soundness
import StandbyStream.Proofs.Topology.Worklist
import StandbyStream.Proofs.Topology.Layout
import StandbyStream.Proofs.Topology.Assembly
import StandbyStream.Proofs.Config.Check
import StandbyStream.Proofs.Engine.Factories
import StandbyStream.Proofs.Station.Acceptance
import StandbyStream.Proofs.Daemon.Start
import StandbyStream.Proofs.Broker.Routing
import StandbyStream.Proofs.Json.Spelling
import StandbyStream.Proofs.Json.Writing
import StandbyStream.Proofs.Broker.Transport
import StandbyStream.Proofs.Command.Wire
import StandbyStream.Proofs.Config.Override
import StandbyStream.Proofs.Player.Threads
import StandbyStream.Proofs.Player.Interleaving
import StandbyStream.Proofs.Player.Teardown
import StandbyStream.Proofs.Player.Settling
import StandbyStream.Proofs.Player.Schedules
import StandbyStream.Proofs.Topology.Chains
import StandbyStream.Proofs.Topology.Rates
import StandbyStream.Proofs.Player.Timing
import StandbyStream.Proofs.Station.Quantities
import StandbyStream.Proofs.Frame.Wire
import StandbyStream.Proofs.Player.Intake
import StandbyStream.Proofs.Station.Chunks
import StandbyStream.Proofs.Text.Reading
import StandbyStream.Proofs.Destination.Grammar
import StandbyStream.Proofs.Destination.Printing
import StandbyStream.Proofs.Player.Pacing
