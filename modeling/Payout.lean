import Payout.Api.Error
import Payout.Api.Handlers
import Payout.Api.Response
import Payout.Audit.Event
import Payout.Calendar.Date
import Payout.Calendar.Iso
import Payout.Cli.Failure
import Payout.Cli.Help
import Payout.Cli.Parse
import Payout.Cli.Similar
import Payout.Cli.Spec
import Payout.Database.Build
import Payout.Database.Catalog
import Payout.Database.Check
import Payout.Database.Define
import Payout.Database.Eval
import Payout.Database.Function.Call
import Payout.Database.Function.Date
import Payout.Database.Function.Json
import Payout.Database.Function.Printf
import Payout.Database.Function.Registry
import Payout.Database.Function.Text
import Payout.Database.Number
import Payout.Database.Parse.Basic
import Payout.Database.Parse.Expr
import Payout.Database.Parse.Statement
import Payout.Database.Pragma
import Payout.Database.Relation
import Payout.Database.Run
import Payout.Database.Scope
import Payout.Database.Session
import Payout.Database.Syntax
import Payout.Database.Token
import Payout.Database.Value
import Payout.Database.Write.Exec
import Payout.Database.Write.Keys
import Payout.Database.Write.Prepare
import Payout.Database.Write.State
import Payout.Decimal.Binary
import Payout.Decimal.Nearest
import Payout.Decimal.Parse
import Payout.Decimal.Text
import Payout.Decimal.Whole
import Payout.Domain.Allocation
import Payout.Domain.Bounded
import Payout.Domain.Entity
import Payout.Domain.Error
import Payout.Domain.Summary
import Payout.Domain.Validation
import Payout.Domain.Weight
import Payout.Json.Decode
import Payout.Json.Reader
import Payout.Json.Value
import Payout.Layout.Basic
import Payout.Layout.Check
import Payout.Layout.Inspect
import Payout.Lifecycle.Allocate
import Payout.Lifecycle.Amend
import Payout.Lifecycle.Basic
import Payout.Lifecycle.Create
import Payout.Lifecycle.Memory
import Payout.Main
import Payout.Server.Body
import Payout.Server.Options
import Payout.Server.Router
import Payout.Store.Backend
import Payout.Store.Basic
import Payout.Store.Error
import Payout.Store.Ledger
import Payout.Store.Location
import Payout.Store.Records
import Payout.Store.Schema
import Payout.Store.Shared
import Payout.Tasks.Command
import Payout.Tasks.Log
import Payout.Tasks.Run
import Payout.Tasks.Verify
import Payout.Text.Blank
import Payout.Text.CodeShown
import Payout.Text.Lower
import Payout.Text.Quoted
import Payout.Text.Upper
import Payout.Proofs.Books.Basic
import Payout.Proofs.Books.Operations
import Payout.Proofs.Books.Keyed
import Payout.Proofs.Books.Effects
import Payout.Proofs.Books.Run
import Payout.Proofs.Allocation.Pipeline
import Payout.Proofs.Lifecycle.Amounts
import Payout.Proofs.Lifecycle.Refusals
import Payout.Proofs.Double.Encoding
import Payout.Proofs.Double.Arithmetic
import Payout.Proofs.Double.Sums
import Payout.Proofs.Double.Whole
import Payout.Proofs.Calendar.RoundTrip
import Payout.Proofs.Allocation.Hundredths
import Payout.Proofs.Allocation.Percentages
import Payout.Proofs.Lifecycle.Capacity
import Payout.Proofs.Lifecycle.Schema
import Payout.Proofs.Allocation.Conservation
import Payout.Proofs.Books.Outcomes
import Payout.Proofs.Lifecycle.Locality
import Payout.Proofs.Lifecycle.Replacement
import Payout.Proofs.Lifecycle.Reread
import Payout.Proofs.Double.Order
import Payout.Proofs.Allocation.Ranking
import Payout.Proofs.Allocation.LargestRemainder
import Payout.Proofs.Lifecycle.Distributed
import Payout.Proofs.Lifecycle.Undo
import Payout.Proofs.Double.Overflow
import Payout.Proofs.Lifecycle.Exactness
import Payout.Proofs.Allocation.Amounts
import Payout.Proofs.Allocation.Monotone
import Payout.Proofs.Double.Removal
import Payout.Proofs.Allocation.Eligibility
import Payout.Proofs.Layout.Expected
import Payout.Proofs.Layout.Reading
import Payout.Proofs.Store.Reading
