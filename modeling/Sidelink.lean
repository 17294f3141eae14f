import Sidelink.Numerology
import Sidelink.TransportBlock
import Sidelink.BlockError.Attempt
import Sidelink.Propagation.Link
import Sidelink.Geometry.Region
import Sidelink.Pool.Basic
import Sidelink.Sensing.Occupancy
import Sidelink.Selection.Draw
import Sidelink.Flow.Basic
import Sidelink.Agenda
import Sidelink.Config.Record
import Sidelink.Scene.Record
import Sidelink.Traffic.Generator
import Sidelink.Simulation.Run
import Sidelink.CommandLine.Answer
import Sidelink.Main
import Sidelink.Proofs.Flow.DataSlots
import Sidelink.Proofs.Traffic.Assignment
import Sidelink.Proofs.Simulation.Accounts
import Sidelink.Proofs.Simulation.Avoidance
import Sidelink.Proofs.Flow.Consistency
import Sidelink.Proofs.Flow.Ledger
import Sidelink.Proofs.Flow.Owed
import Sidelink.Proofs.Flow.Occasions
import Sidelink.Proofs.Flow.Triggers
import Sidelink.Proofs.Pool.Width
import Sidelink.Proofs.Pool.Subframes
import Sidelink.Proofs.Pool.Control
import Sidelink.Proofs.Pool.Placements
import Sidelink.Proofs.Pool.Boundary
import Sidelink.Proofs.Pool.Partition
import Sidelink.Proofs.Pool.Clusters
import Sidelink.Proofs.TransportBlock
import Sidelink.Proofs.Flow.Fit
import Sidelink.Proofs.Agenda
import Sidelink.Proofs.Agenda.Account
import Sidelink.Proofs.Flow.Deadline
import Sidelink.Proofs.Simulation.Clock
import Sidelink.Proofs.Simulation.Deadline
import Sidelink.Proofs.Simulation.Pipeline
import Sidelink.Proofs.Flow.Repeats
import Sidelink.Proofs.Simulation.Repeats
import Sidelink.Proofs.Simulation.Ratios
import Sidelink.Proofs.Simulation.Evaluation
import Sidelink.Proofs.BlockError.Range
import Sidelink.Proofs.Scalar.Exact
import Sidelink.Proofs.Scalar.Powers
import Sidelink.Proofs.TransportBlock.Size
import Sidelink.Proofs.TransportBlock.Bound
import Sidelink.Proofs.TransportBlock.Smallest
import Sidelink.Proofs.BlockError.Envelope
import Sidelink.Proofs.BlockError.Graph
import Sidelink.Proofs.BlockError.Monotone
import Sidelink.Proofs.Simulation.Foresight
import Sidelink.Proofs.Agenda.Pending
import Sidelink.Proofs.Propagation.Link
import Sidelink.Proofs.Simulation.Timers
import Sidelink.Proofs.Simulation.Upkeep
import Sidelink.Proofs.Simulation.Beginning
import Sidelink.Proofs.Simulation.Ending
import Sidelink.Proofs.Scalar.Remainder
import Sidelink.Proofs.Scene.Wrap
import Sidelink.Proofs.Simulation.Wrapping
import Sidelink.Proofs.Sensing.Coverage
import Sidelink.Proofs.Scalar.Levels
import Sidelink.Proofs.Sensing.Merging
import Sidelink.Proofs.Flow.Announced
import Sidelink.Proofs.Flow.Refusals
import Sidelink.Proofs.Flow.Errors
import Sidelink.Proofs.Flow.Upcoming
import Sidelink.Proofs.TransportBlock.Legal
import Sidelink.Proofs.BlockError.Inverse
import Sidelink.Proofs.BlockError.Combining
import Sidelink.Proofs.Selection.Fifth
import Sidelink.Proofs.Selection.Retransmission
import Sidelink.Proofs.Selection.Complete
import Sidelink.Proofs.Slot.Ring
import Sidelink.Proofs.Pool.Areas
import Sidelink.Proofs.Propagation.Reciprocity
import Sidelink.Proofs.Simulation.Ages
import Sidelink.Proofs.Simulation.Calls
import Sidelink.Proofs.Traffic.Delays
import Sidelink.Proofs.Simulation.Durations
import Sidelink.Proofs.Geometry.Extent
import Sidelink.Proofs.Traffic.Drive
import Sidelink.Proofs.Traffic.Shares
import Sidelink.Proofs.Simulation.Interference
import Sidelink.Proofs.Geometry.Symmetry
import Sidelink.Proofs.Pool.Bitmap
import Sidelink.Proofs.BlockError.Minimum
