import Workflow.Main
import Workflow.Scheduler
import Workflow.Simulation.Handlers
import Workflow.Simulation.Listeners
import Workflow.Simulation.Names
import Workflow.Simulation.Outside
import Workflow.Simulation.Spans
import Workflow.Proofs.Exclusion
import Workflow.Proofs.Interleaving
import Workflow.Proofs.Recovery
import Workflow.Proofs.Atomicity
import Workflow.Proofs.Lifecycle
import Workflow.Proofs.Updates
import Workflow.Proofs.Reminding
import Workflow.Proofs.Commutation
import Workflow.Proofs.Listings
import Workflow.Proofs.Printing
import Workflow.Proofs.Transparency
import Workflow.Proofs.Deadlines
import Workflow.Proofs.Siblings
import Workflow.Proofs.Branching
import Workflow.Proofs.WellFormed
import Workflow.Proofs.Stalemate
import Workflow.Proofs.Errands
import Workflow.Proofs.Tolerances
import Workflow.Proofs.PendingWork
import Workflow.Proofs.Reachability
import Workflow.Proofs.Cadences
import Workflow.Proofs.Records
import Workflow.Proofs.TickReports
import Workflow.Proofs.Widening
