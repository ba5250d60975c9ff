import Arazzo.Config
import Arazzo.Context
import Arazzo.Document.Calendar
import Arazzo.Document.Value
import Arazzo.Expression.Condition
import Arazzo.Expression.Path
import Arazzo.Http.Client
import Arazzo.Inputs
import Arazzo.Json.Reader
import Arazzo.Json.Writer
import Arazzo.Loading.Sources
import Arazzo.Number.Numeral
import Arazzo.Number.Shortest
import Arazzo.Schema.Check
import Arazzo.Text.Encoding
import Arazzo.Toml.Read
import Arazzo.Workflow.Run
import Arazzo.Yaml.Read
import Arazzo.CommandLine.Relay
import Arazzo.Main
import Arazzo.Proofs.Document.Dereference
import Arazzo.Proofs.Expression.Denotation
import Arazzo.Proofs.Workflow.Calls
import Arazzo.Proofs.Workflow.Memory
import Arazzo.Proofs.Workflow.Path
import Arazzo.Proofs.Workflow.Termination
import Arazzo.Proofs.Document.Keys
import Arazzo.Proofs.Document.Visit
import Arazzo.Proofs.Document.Circular
import Arazzo.Proofs.Document.Replacement
import Arazzo.Proofs.Http.Header
import Arazzo.Proofs.Workflow.Repetition
import Arazzo.Proofs.Expression.Defects
import Arazzo.Proofs.Workflow.Defects
import Arazzo.Proofs.Workflow.Breakdown
import Arazzo.Proofs.Workflow.Inlining
import Arazzo.Proofs.Workflow.FormData
import Arazzo.Proofs.Workflow.JsonBody
import Arazzo.Proofs.Workflow.Isolation
import Arazzo.Proofs.Workflow.Judgment
import Arazzo.Proofs.Http.RetryAfter
import Arazzo.Proofs.Workflow.Delays
import Arazzo.Proofs.Workflow.HeaderParameters
import Arazzo.Proofs.Workflow.Placeholder
import Arazzo.Proofs.CommandLine.Exit
import Arazzo.Proofs.Http.Origin
import Arazzo.Proofs.Workflow.Confinement
import Arazzo.Proofs.Document.Order
import Arazzo.Proofs.Expression.Comparison
import Arazzo.Proofs.Expression.PathTokens
import Arazzo.Proofs.Expression.Quotation
import Arazzo.Proofs.Expression.Ascent
import Arazzo.Proofs.Expression.Outcome
import Arazzo.Proofs.Workflow.Criteria
import Arazzo.Proofs.Document.Pointer
import Arazzo.Proofs.Workflow.Lookup
import Arazzo.Proofs.Loading.Sources
import Arazzo.Proofs.Inputs
import Arazzo.Proofs.Config
import Arazzo.Proofs.Loading.Document
import Arazzo.Proofs.Schema.Steps
import Arazzo.Proofs.Expression.Enclosure
import Arazzo.Proofs.Expression.Division
