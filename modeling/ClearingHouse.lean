import ClearingHouse.AuditView
import ClearingHouse.Collateral
import ClearingHouse.Collateral.Coverage
import ClearingHouse.Collateral.Interleaving
import ClearingHouse.Deployment
import ClearingHouse.Events.Agreement
import ClearingHouse.Events.Backlog
import ClearingHouse.Events.Chains
import ClearingHouse.Events.Compliance
import ClearingHouse.Events.ConcurrentPublishers
import ClearingHouse.Events.ConsumeLoops
import ClearingHouse.Events.Consumers
import ClearingHouse.Events.Consumption
import ClearingHouse.Events.CoverTwo
import ClearingHouse.Events.DeadLetters
import ClearingHouse.Events.Dispatch
import ClearingHouse.Events.DroppedMessages
import ClearingHouse.Events.HandledMessages
import ClearingHouse.Events.Handlers
import ClearingHouse.Events.LostMessages
import ClearingHouse.Events.Operations
import ClearingHouse.Events.Publisher
import ClearingHouse.Events.Register
import ClearingHouse.Events.Traces
import ClearingHouse.Events.Writers
import ClearingHouse.Gateway
import ClearingHouse.Handover
import ClearingHouse.HouseBalance
import ClearingHouse.Idempotency
import ClearingHouse.Ledger.BalanceView
import ClearingHouse.Ledger.Chart
import ClearingHouse.Ledger.DoubleEntry
import ClearingHouse.Ledger.GatewayReport
import ClearingHouse.Ledger.Grants
import ClearingHouse.Ledger.Growth
import ClearingHouse.Ledger.LedgerTransaction
import ClearingHouse.Ledger.LockedPool
import ClearingHouse.Ledger.Reconciliation
import ClearingHouse.Ledger.Reports
import ClearingHouse.Ledger.Sessions
import ClearingHouse.Ledger.Writes
import ClearingHouse.Library.Base64
import ClearingHouse.Library.DecimalRounding
import ClearingHouse.Library.Deduplication
import ClearingHouse.Library.Fibers
import ClearingHouse.Library.Largest
import ClearingHouse.Library.LossTiers
import ClearingHouse.Library.Lots
import ClearingHouse.Library.ProRata
import ClearingHouse.Library.Queries
import ClearingHouse.Library.StepSystem
import ClearingHouse.Library.Tables
import ClearingHouse.Library.TextFields
import ClearingHouse.Library.Transaction
import ClearingHouse.Library.Triples
import ClearingHouse.Margin
import ClearingHouse.Margin.Completion
import ClearingHouse.Margin.Convergence
import ClearingHouse.Margin.Freshness
import ClearingHouse.Margin.MarkToMarket
import ClearingHouse.Margin.Positions
import ClearingHouse.Margin.Recalculation
import ClearingHouse.Margin.Runs
import ClearingHouse.Netting
import ClearingHouse.Netting.Instructions
import ClearingHouse.Netting.Interleaving
import ClearingHouse.Netting.MatchedBook
import ClearingHouse.Netting.Obligations
import ClearingHouse.Netting.OrderIndependence
import ClearingHouse.Netting.PaidPositions
import ClearingHouse.Netting.Specification
import ClearingHouse.Netting.Valuation
import ClearingHouse.Novation
import ClearingHouse.Novation.Atomicity
import ClearingHouse.Novation.Effects
import ClearingHouse.Novation.Eligibility
import ClearingHouse.Novation.Lifecycle
import ClearingHouse.Novation.LockedMargin
import ClearingHouse.Novation.Session
import ClearingHouse.Novation.Validation
import ClearingHouse.Oracle
import ClearingHouse.Oracle.Runs
import ClearingHouse.Schema
import ClearingHouse.SchemaChecks
import ClearingHouse.Seeding
import ClearingHouse.Settlement
import ClearingHouse.Settlement.Calls
import ClearingHouse.Settlement.CashCalls
import ClearingHouse.Settlement.Commits
import ClearingHouse.Settlement.Completion
import ClearingHouse.Settlement.Deliveries
import ClearingHouse.Settlement.Effects
import ClearingHouse.Settlement.Failure
import ClearingHouse.Settlement.Finality
import ClearingHouse.Settlement.Keeping
import ClearingHouse.Settlement.Log
import ClearingHouse.Settlement.Orphans
import ClearingHouse.Settlement.Payments
import ClearingHouse.Settlement.Polling
import ClearingHouse.Settlement.Script
import ClearingHouse.Settlement.SingleBroadcast
import ClearingHouse.Settlement.StatusRuns
import ClearingHouse.Settlement.StubChain
import ClearingHouse.Settlement.Unsigned
import ClearingHouse.Signing
import ClearingHouse.Signing.Nodes
import ClearingHouse.Statements
import ClearingHouse.Waterfall.Accounting
import ClearingHouse.Waterfall.Completeness
import ClearingHouse.Waterfall.Execute
import ClearingHouse.Waterfall.FairShares
import ClearingHouse.Waterfall.Order
import ClearingHouse.Waterfall.Postings
import ClearingHouse.Waterfall.Refinement
import ClearingHouse.Waterfall.Tiers
