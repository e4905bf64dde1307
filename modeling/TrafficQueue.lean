import TrafficQueue.Clock
import TrafficQueue.Ident
import TrafficQueue.Mode
import TrafficQueue.Decimal.Shortest
import TrafficQueue.Decimal.Fixed
import TrafficQueue.Decimal.Reader
import TrafficQueue.Config.Parameter
import TrafficQueue.Geometry.Point
import TrafficQueue.Random
import TrafficQueue.Network.Builder
import TrafficQueue.Network.Path
import TrafficQueue.Plan.Score
import TrafficQueue.Population
import TrafficQueue.EndQueue
import TrafficQueue.Scenario.Grid
import TrafficQueue.Event.Record
import TrafficQueue.Queue.Network
import TrafficQueue.Plan.LeastTime
import TrafficQueue.Agent.Execution
import TrafficQueue.Replanning.Replanner
import TrafficQueue.Simulation.Run
import TrafficQueue.Main
import TrafficQueue.Proofs.Plan.Fitting
import TrafficQueue.Proofs.Plan.Splicing
import TrafficQueue.Proofs.Agent.Position
import TrafficQueue.Proofs.Agent.Outcomes
import TrafficQueue.Proofs.Agent.Deed
import TrafficQueue.Proofs.Queue.Operations
import TrafficQueue.Proofs.Queue.Presence
import TrafficQueue.Proofs.Queue.Storage
import TrafficQueue.Proofs.Queue.Schedule
import TrafficQueue.Proofs.Simulation.Moment
import TrafficQueue.Proofs.Simulation.Sound
import TrafficQueue.Proofs.Simulation.Operation
import TrafficQueue.Proofs.Simulation.Progress
import TrafficQueue.Proofs.Simulation.Start
import TrafficQueue.Proofs.Simulation.Course
import TrafficQueue.Proofs.Simulation.Places
import TrafficQueue.Proofs.Network.Adjacency
import TrafficQueue.Proofs.Simulation.Safety
import TrafficQueue.Proofs.Simulation.Travelled
import TrafficQueue.Proofs.Simulation.Balance
import TrafficQueue.Proofs.Queue.Calls
import TrafficQueue.Proofs.Queue.Turns
import TrafficQueue.Proofs.Network.Chain
import TrafficQueue.Proofs.Network.Search
import TrafficQueue.Proofs.Network.LeastTime
import TrafficQueue.Proofs.Plan.Drivable
import TrafficQueue.Proofs.Simulation.Lossless
import TrafficQueue.Proofs.Agent.Story
import TrafficQueue.Proofs.Simulation.Narrative
import TrafficQueue.Proofs.Queue.Outflow
import TrafficQueue.Proofs.Simulation.Occupancy
import TrafficQueue.Proofs.Queue.FreeFlow
import TrafficQueue.Proofs.Agent.Visit
import TrafficQueue.Proofs.Simulation.Dwelling
import TrafficQueue.Proofs.Network.Order
import TrafficQueue.Proofs.Simulation.Service
import TrafficQueue.Proofs.Simulation.Stream
import TrafficQueue.Proofs.Simulation.Idle
import TrafficQueue.Proofs.Simulation.Ending
import TrafficQueue.Proofs.Agent.Strategies
import TrafficQueue.Proofs.Simulation.Declining
import TrafficQueue.Proofs.Agent.Footprint
import TrafficQueue.Proofs.Simulation.Alike
import TrafficQueue.Proofs.Simulation.Parted
import TrafficQueue.Proofs.Simulation.Apart
import TrafficQueue.Proofs.Queue.Refill
import TrafficQueue.Proofs.Queue.Free
import TrafficQueue.Proofs.Agent.Trip
import TrafficQueue.Proofs.Simulation.Drive
import TrafficQueue.Proofs.Simulation.Delivery
import TrafficQueue.Proofs.Agent.Memory
import TrafficQueue.Proofs.Agent.Walk
import TrafficQueue.Proofs.Simulation.Walking
import TrafficQueue.Proofs.Event.Dispatch
import TrafficQueue.Proofs.Simulation.Listening
import TrafficQueue.Proofs.Simulation.Finishing
import TrafficQueue.Proofs.Replanning.Request
import TrafficQueue.Proofs.Plan.Later
import TrafficQueue.Proofs.Queue.Later
import TrafficQueue.Proofs.Agent.Later
import TrafficQueue.Proofs.Geometry.Magnitude
import TrafficQueue.Proofs.Scenario.Streets
import TrafficQueue.Proofs.Scenario.Grid
import TrafficQueue.Proofs.Simulation.Later
import TrafficQueue.Proofs.Network.Incidence
import TrafficQueue.Proofs.Queue.Bookings
import TrafficQueue.Proofs.Agent.Stay
import TrafficQueue.Proofs.Simulation.Calling
import TrafficQueue.Proofs.Simulation.Leaving
import TrafficQueue.Proofs.Simulation.Completion
import TrafficQueue.Proofs.Program
import TrafficQueue.Proofs.Queue.Frame
import TrafficQueue.Proofs.Agent.Refusal
import TrafficQueue.Proofs.Simulation.Replanning
import TrafficQueue.Proofs.Simulation.Spacing
import TrafficQueue.Proofs.Text.Numeral
import TrafficQueue.Proofs.Time.Written
import TrafficQueue.Proofs.Plan.Sequence
import TrafficQueue.Proofs.Output.Handover
import TrafficQueue.Proofs.Network.Construction
import TrafficQueue.Proofs.Output.Restoring
import TrafficQueue.Proofs.Decimal.Bits
import TrafficQueue.Proofs.Decimal.Nearest
import TrafficQueue.Proofs.Decimal.Shortest
import TrafficQueue.Proofs.Decimal.Written
import TrafficQueue.Proofs.Config.Fields
import TrafficQueue.Proofs.Config.Setting
