import ErrorTrail.Text.Ranges
import ErrorTrail.Text.Blank
import ErrorTrail.Text.Printable
import ErrorTrail.Text.GraphemeExtend
import ErrorTrail.Text.Quoted
import ErrorTrail.Text.Decimal
import ErrorTrail.Violation
import ErrorTrail.Guard
import ErrorTrail.Kind
import ErrorTrail.Layout
import ErrorTrail.Style
import ErrorTrail.Heap.Node
import ErrorTrail.Heap.ErrorSet
import ErrorTrail.Heap.Basic
import ErrorTrail.Heap.Chain
import ErrorTrail.Heap.Equality
import ErrorTrail.Error
import ErrorTrail.Collection
import ErrorTrail.Render
import ErrorTrail.Inspect
import ErrorTrail.Foreign
import ErrorTrail.Outcome
import ErrorTrail.Outcome.Typed
import ErrorTrail.Workspace
import ErrorTrail.Proofs.Links
import ErrorTrail.Proofs.Reachable
import ErrorTrail.Proofs.Acyclic
import ErrorTrail.Proofs.Equality
import ErrorTrail.Proofs.Index
import ErrorTrail.Proofs.Insertion
import ErrorTrail.Proofs.Severity
import ErrorTrail.Proofs.Redaction
import ErrorTrail.Proofs.Names
import ErrorTrail.Proofs.CauseAssignment
import ErrorTrail.Proofs.Batch
import ErrorTrail.Proofs.KindSearch
import ErrorTrail.Proofs.RenderCongruence
import ErrorTrail.Proofs.CustomKinds
import ErrorTrail.Proofs.Delegation
import ErrorTrail.Proofs.DepthLimit
