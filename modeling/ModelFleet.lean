import ModelFleet.Cycle.Permits
import ModelFleet.Main
import ModelFleet.Proofs.Cluster.Agreement
import ModelFleet.Proofs.Cluster.Expiry
import ModelFleet.Proofs.Cluster.Push
import ModelFleet.Proofs.Cluster.Undeployment
import ModelFleet.Proofs.Config.Environment
import ModelFleet.Proofs.Cycle.Confinement
import ModelFleet.Proofs.Cycle.Faults
import ModelFleet.Proofs.Cycle.Precedence
import ModelFleet.Proofs.Cycle.Repetition
import ModelFleet.Proofs.Cycle.Scan
import ModelFleet.Proofs.Cycle.Selection
import ModelFleet.Proofs.Cycle.Stability
import ModelFleet.Proofs.Cycle.Story
import ModelFleet.Proofs.Cycle.Transformation
import ModelFleet.Proofs.Cycle.Writeback
import ModelFleet.Proofs.Event.History
import ModelFleet.Proofs.Key.Agreement
import ModelFleet.Proofs.Key.Failure
import ModelFleet.Proofs.Key.Installs
import ModelFleet.Proofs.Node.Attribution
import ModelFleet.Proofs.Node.Order
import ModelFleet.Proofs.Node.Upkeep
import ModelFleet.Proofs.Scheduler.Accounting
import ModelFleet.Proofs.Scheduler.Stopping
import ModelFleet.Proofs.Wire
import ModelFleet.Simulation.Session
