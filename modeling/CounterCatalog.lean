import CounterCatalog.Counter.Session
import CounterCatalog.Main
import CounterCatalog.Proofs.Catalog.Pipeline
import CounterCatalog.Proofs.Event.Rendering
import CounterCatalog.Proofs.Counter.WholeRecords
import CounterCatalog.Proofs.Process.Running
import CounterCatalog.Proofs.Process.Launching
import CounterCatalog.Proofs.Catalog.Course
import CounterCatalog.Proofs.Catalog.Stopping
import CounterCatalog.Proofs.Host.TwoRuns
import CounterCatalog.Proofs.Catalog.Strictness
import CounterCatalog.Proofs.Tree.Sites
import CounterCatalog.Proofs.Counter.Cells
import CounterCatalog.Proofs.Counter.Independence
import CounterCatalog.Proofs.Event.Apart
import CounterCatalog.Proofs.Catalog.Recovery
import CounterCatalog.Proofs.Text.Lines
import CounterCatalog.Proofs.Counter.Display
import CounterCatalog.Proofs.Program.Lookup
import CounterCatalog.Proofs.CommandLine.Choices
import CounterCatalog.Proofs.CommandLine.Placement
import CounterCatalog.Proofs.Event.Code
import CounterCatalog.Proofs.Text.WellFormed
import CounterCatalog.Proofs.Counter.Joining
import CounterCatalog.Proofs.Counter.LineEnds
import CounterCatalog.Proofs.Program.FirstMissing
import CounterCatalog.Proofs.Program.ListedLabels
import CounterCatalog.Proofs.Settings.Output
import CounterCatalog.Proofs.Settings.Holding
import CounterCatalog.Proofs.Event.Blocks
import CounterCatalog.Proofs.Counter.Spelling
import CounterCatalog.Proofs.Catalog.Commas
import CounterCatalog.Proofs.Process.Showing
