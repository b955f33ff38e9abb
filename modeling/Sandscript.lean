import Sandscript.Capture.Pool
import Sandscript.Names
import Sandscript.Output
import Sandscript.Policy.Report
import Sandscript.Records
import Sandscript.Script
import Sandscript.Trace.Document
import Sandscript.Compiled
import Sandscript.ValidationReport
import Sandscript.Engine
import Sandscript.Main
import Sandscript.Proofs.Batch.Identity
import Sandscript.Proofs.Validation.Verdict
import Sandscript.Proofs.Validation.Agreement
import Sandscript.Proofs.Validation.Subscripts
import Sandscript.Proofs.Run.Confinement
import Sandscript.Proofs.Batch.Composition
import Sandscript.Proofs.Run.Outcome
import Sandscript.Proofs.Batch.Session
import Sandscript.Proofs.Batch.Untouched
import Sandscript.Proofs.Batch.ReadBack
import Sandscript.Proofs.Refusals.Backends
import Sandscript.Proofs.Records.Encodings
import Sandscript.Proofs.Policy.RoundTrip
import Sandscript.Proofs.Command.Apply
import Sandscript.Proofs.Policy.Guards
import Sandscript.Proofs.Batch.Difference
import Sandscript.Proofs.Run.Identifier
import Sandscript.Proofs.Value.Decimals
import Sandscript.Proofs.Capture.Clones
import Sandscript.Proofs.Validation.Callbacks
import Sandscript.Proofs.Records.Framing
import Sandscript.Proofs.Value.Paths
import Sandscript.Proofs.Library.Sorted
import Sandscript.Proofs.Library.Extremes
import Sandscript.Proofs.Library.Exact
import Sandscript.Proofs.Digest
import Sandscript.Proofs.Outline.Colors
import Sandscript.Proofs.Policy.Header
import Sandscript.Proofs.Library.Conversions
