import TagBinding.Table
import TagBinding.Text.Blank
import TagBinding.Text.Line
import TagBinding.Text.Quoted
import TagBinding.Number.Shortest
import TagBinding.Value.Render
import TagBinding.Definition.Load
import TagBinding.Document
import TagBinding.Extraction
import TagBinding.Session.Command
import TagBinding.Stock.Action
import TagBinding.Stock.Standard
import TagBinding.Live.Value
import TagBinding.Live.Heap
import TagBinding.Live.Scene
import TagBinding.Live.Routine
import TagBinding.Live.Extraction
import TagBinding.Live.Reporting
import TagBinding.Live.Stock
import TagBinding.Live.Session
import TagBinding.Live.Command
import TagBinding.Proofs.Edits
import TagBinding.Proofs.Passes
import TagBinding.Proofs.Collection
import TagBinding.Proofs.Cases
import TagBinding.Proofs.Checkpoints
import TagBinding.Proofs.Restraint
import TagBinding.Proofs.Deposits
import TagBinding.Proofs.Determined
import TagBinding.Proofs.ClosedForm
import TagBinding.Proofs.Deduplication
import TagBinding.Proofs.Routing
import TagBinding.Proofs.StandardTags
import TagBinding.Proofs.Deliveries
import TagBinding.Proofs.Independence
import TagBinding.Proofs.Growth
import TagBinding.Proofs.Validation
import TagBinding.Proofs.Warnings
import TagBinding.Proofs.ReadBack
import TagBinding.Proofs.Reports
import TagBinding.Proofs.Repetition
import TagBinding.Proofs.SharedTransforms
import TagBinding.Proofs.Filing
import TagBinding.Proofs.Spelling
import TagBinding.Proofs.Resolution
import TagBinding.Proofs.Lines
import TagBinding.Proofs.Live.Edits
import TagBinding.Proofs.Live.Passes
import TagBinding.Proofs.Live.Collection
import TagBinding.Proofs.Live.Cases
import TagBinding.Proofs.Live.SharedTransforms
import TagBinding.Proofs.Live.Reports
import TagBinding.Proofs.Live.Deliveries
import TagBinding.Proofs.Live.Preservation
import TagBinding.Proofs.Live.Indifference
import TagBinding.Proofs.Live.Interruption
import TagBinding.Proofs.Live.Writing
import TagBinding.Proofs.Live.Frame
import TagBinding.Proofs.Live.Homes
import TagBinding.Proofs.Live.Stock
import TagBinding.Proofs.Live.Housing
import TagBinding.Proofs.Live.Interleaving
import TagBinding.Proofs.Live.Batches
import TagBinding.Proofs.Live.Growth
import TagBinding.Proofs.Live.AppendOnly
import TagBinding.Proofs.Live.Portrait
import TagBinding.Proofs.Live.Refinement
import TagBinding.Proofs.Live.Arrivals
import TagBinding.Proofs.Live.Builtins
import TagBinding.Proofs.Live.ClosedForm
import TagBinding.Proofs.Live.StandardTags
import TagBinding.Proofs.Live.Independence
import TagBinding.Proofs.Live.Repetition
import TagBinding.Proofs.Live.Warnings
