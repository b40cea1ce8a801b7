import FormFlow.Unicode.WhiteSpace
import FormFlow.Unicode.Alphabetic
import FormFlow.Unicode.Numeric
import FormFlow.Unicode.Invisible
import FormFlow.Text.Quoted
import FormFlow.Text.Slug
import FormFlow.Number.Numeral
import FormFlow.Value.Compare
import FormFlow.Expression.Eval
import FormFlow.Access
import FormFlow.Script.Basic
import FormFlow.Project
import FormFlow.Sandbox.Basic
import FormFlow.Process.Walk
import FormFlow.Process.Check
import FormFlow.Form.Render
import FormFlow.Instance
import FormFlow.Store
import FormFlow.Service.Basic
import FormFlow.Wire.Document
import FormFlow.Settings.Basic
import FormFlow.Proofs.Decision
import FormFlow.Proofs.OpenStep
import FormFlow.Proofs.Atomicity
import FormFlow.Proofs.Lifecycle
import FormFlow.Proofs.Gates
import FormFlow.Proofs.EdgeChoice
import FormFlow.Proofs.Preview
import FormFlow.Proofs.Reading
import FormFlow.Proofs.Unambiguous
import FormFlow.Proofs.Acceptance
import FormFlow.Proofs.Nesting
import FormFlow.Proofs.History
import FormFlow.Proofs.Interleaving
import FormFlow.Proofs.Metering
import FormFlow.Proofs.FailClosed
import FormFlow.Proofs.TrustedEntries
import FormFlow.Proofs.Visibility
import FormFlow.Proofs.Rendering
import FormFlow.Proofs.Fetching
import FormFlow.Proofs.Resting
import FormFlow.Proofs.CheckedProcess
import FormFlow.Proofs.Independence
import FormFlow.Proofs.IssueReport
import FormFlow.Proofs.Course
import FormFlow.Proofs.Numbering
import FormFlow.Proofs.RoundTrip
import FormFlow.Proofs.Coherence
import FormFlow.Proofs.Spacing
import FormFlow.Proofs.LineByLine
import FormFlow.Proofs.Comments
import FormFlow.Proofs.Joining
import FormFlow.Proofs.ProjectLists
import FormFlow.Proofs.Adjacency
import FormFlow.Proofs.Partition
import FormFlow.Proofs.Quoting
import FormFlow.Proofs.FaultColumns
import FormFlow.Proofs.Slugs
import FormFlow.Proofs.Flattening
import FormFlow.Proofs.Permits
