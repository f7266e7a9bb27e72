import Rulebook.Binary64.Decimal
import Rulebook.Text.Blank
import Rulebook.Text.Digit
import Rulebook.Text.Printable
import Rulebook.Text.LowerCase
import Rulebook.Text.Quoted
import Rulebook.Text.Search
import Rulebook.Timestamp
import Rulebook.Timestamp.Reading
import Rulebook.Timestamp.Writing
import Rulebook.Fault
import Rulebook.Value
import Rulebook.Value.Equality
import Rulebook.Value.Text
import Rulebook.Numeral
import Rulebook.Value.Number
import Rulebook.Path
import Rulebook.Refusal
import Rulebook.Condition
import Rulebook.Condition.Test
import Rulebook.Condition.Tree
import Rulebook.Ledger
import Rulebook.Action
import Rulebook.Action.Effect
import Rulebook.Outcome
import Rulebook.Rule
import Rulebook.Result
import Rulebook.RuleSet
import Rulebook.Merged
import Rulebook.Context
import Rulebook.Metrics
import Rulebook.Metrics.Sample
import Rulebook.Metrics.Call
import Rulebook.Engine
import Rulebook.Engine.Call
import Rulebook.Signature
import Rulebook.Builder
import Rulebook.Template
import Rulebook.Rule.Fields
import Rulebook.Json.Reader
import Rulebook.Json.Safe
import Rulebook.Issue
import Rulebook.Report
import Rulebook.Settings
import Rulebook.Journal
import Rulebook.Text.Percent
import Rulebook.Service.Request
import Rulebook.Service.Form
import Rulebook.Service
import Rulebook.Service.Session
import Rulebook.Proofs.Success
import Rulebook.Proofs.Reading
import Rulebook.Proofs.Priority
import Rulebook.Proofs.Run
import Rulebook.Proofs.Equality
import Rulebook.Proofs.Parts
import Rulebook.Proofs.Ledger
import Rulebook.Proofs.Fusion
import Rulebook.Proofs.Isolation
import Rulebook.Proofs.Condition
import Rulebook.Proofs.Pruning
import Rulebook.Proofs.Binding
import Rulebook.Proofs.Written
import Rulebook.Proofs.Timestamp
import Rulebook.Proofs.RoundTrip
import Rulebook.Proofs.Catalogue
import Rulebook.Proofs.Arguments
import Rulebook.Proofs.Merging
import Rulebook.Proofs.Totality
import Rulebook.Proofs.Workflows
import Rulebook.Proofs.Independence
import Rulebook.Proofs.Refusals
import Rulebook.Proofs.Textual
import Rulebook.Proofs.Answers
import Rulebook.Proofs.Counting
import Rulebook.Proofs.Bystanders
import Rulebook.Proofs.Accounting
import Rulebook.Proofs.Occasions
import Rulebook.Proofs.Growth
import Rulebook.Proofs.Stateless
import Rulebook.Proofs.Safe
import Rulebook.Proofs.Told
import Rulebook.Proofs.Published
import Rulebook.Proofs.Single
import Rulebook.Proofs.Comparisons
import Rulebook.Proofs.Connectives
import Rulebook.Proofs.Strictness
import Rulebook.Proofs.Places
import Rulebook.Proofs.Paths
import Rulebook.Proofs.Positions
import Rulebook.Proofs.Grammar
import Rulebook.Proofs.Rounding
import Rulebook.Proofs.Precedence
import Rulebook.Proofs.Shortest
import Rulebook.Proofs.Numerals
import Rulebook.Proofs.Literals
import Rulebook.Proofs.Spelling
import Rulebook.Proofs.Coercions
import Rulebook.Proofs.Fees
import Rulebook.Proofs.Sums
import Rulebook.Proofs.Decisions
import Rulebook.Proofs.Shape
