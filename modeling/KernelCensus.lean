import KernelCensus.Fixture
import KernelCensus.Simulation.Programs
import KernelCensus.Proofs.Order
import KernelCensus.Proofs.Release
import KernelCensus.Proofs.Scan
import KernelCensus.Proofs.Path
import KernelCensus.Proofs.Query
import KernelCensus.Proofs.Outcome
import KernelCensus.Proofs.Settings
import KernelCensus.Proofs.Listing
import KernelCensus.Proofs.Confinement
import KernelCensus.Proofs.Oldest
import KernelCensus.Proofs.Resolution
import KernelCensus.Proofs.Presence
import KernelCensus.Proofs.Reordering
import KernelCensus.Proofs.Directory
import KernelCensus.Proofs.Sound
import KernelCensus.Proofs.Census
import KernelCensus.Proofs.Stale
import KernelCensus.Proofs.Blank
import KernelCensus.Proofs.Host
import KernelCensus.Proofs.Display
import KernelCensus.Proofs.Output
import KernelCensus.Proofs.Printing
import KernelCensus.Proofs.Execution
import KernelCensus.Proofs.Reads
import KernelCensus.Proofs.OldestKernel
import KernelCensus.Proofs.NormalForm
import KernelCensus.Proofs.Ranking
import KernelCensus.Proofs.Precedence
import KernelCensus.Proofs.Arguments
import KernelCensus.Proofs.Probe
import KernelCensus.Proofs.Acceptance
import KernelCensus.Proofs.Logging
import KernelCensus.Proofs.Respelling
