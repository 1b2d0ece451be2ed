import ReplayLedger.Address
import ReplayLedger.Address.Opening
import ReplayLedger.Argument
import ReplayLedger.Association
import ReplayLedger.Batch
import ReplayLedger.Call
import ReplayLedger.Command
import ReplayLedger.Command.Arguments
import ReplayLedger.Command.ReadOnly
import ReplayLedger.Command.Run
import ReplayLedger.Command.Suggestion
import ReplayLedger.Comparison
import ReplayLedger.Error
import ReplayLedger.Failure
import ReplayLedger.Failure.Foreign
import ReplayLedger.Ingestion
import ReplayLedger.Json
import ReplayLedger.Json.Reader
import ReplayLedger.Location
import ReplayLedger.Locks
import ReplayLedger.Main
import ReplayLedger.Misuse
import ReplayLedger.Number.Binary64
import ReplayLedger.Number.Shortest
import ReplayLedger.Order
import ReplayLedger.Order.Insertion
import ReplayLedger.Order.Merging
import ReplayLedger.Order.Search
import ReplayLedger.Order.Sorting
import ReplayLedger.Path
import ReplayLedger.Payload
import ReplayLedger.Payload.IntegerText
import ReplayLedger.Payload.Problem
import ReplayLedger.Quantity
import ReplayLedger.Record
import ReplayLedger.RuntimeKind
import ReplayLedger.Settings
import ReplayLedger.Shell
import ReplayLedger.Store
import ReplayLedger.Store.Blocks
import ReplayLedger.Store.Contracts
import ReplayLedger.Store.Document
import ReplayLedger.Store.Entries
import ReplayLedger.Store.Environments
import ReplayLedger.Store.Maps
import ReplayLedger.Store.Snapshot
import ReplayLedger.Store.Tables
import ReplayLedger.Store.Variables
import ReplayLedger.Text.Blank
import ReplayLedger.Text.Capital
import ReplayLedger.Text.Control
import ReplayLedger.Text.Digit
import ReplayLedger.Text.Hex
import ReplayLedger.Text.Lines
import ReplayLedger.Text.Numeral
import ReplayLedger.Text.Percent
import ReplayLedger.Text.Printable
import ReplayLedger.Text.Quoted
import ReplayLedger.Text.Small
import ReplayLedger.Text.Surrogate
import ReplayLedger.Text.Utf8
import ReplayLedger.Text.Word
import ReplayLedger.Transaction
import ReplayLedger.Triage
import ReplayLedger.Value
import ReplayLedger.Value.Comparison
import ReplayLedger.Value.Literal
import ReplayLedger.Version
import ReplayLedger.Proofs.Scopes
import ReplayLedger.Proofs.Transactions
import ReplayLedger.Proofs.Change
import ReplayLedger.Proofs.Consistency
import ReplayLedger.Proofs.History
import ReplayLedger.Proofs.Reading
import ReplayLedger.Proofs.Acceptance
import ReplayLedger.Proofs.Associations
import ReplayLedger.Proofs.PayloadLog
import ReplayLedger.Proofs.Replay
import ReplayLedger.Proofs.Journal
import ReplayLedger.Proofs.Divergence
import ReplayLedger.Proofs.Observation
import ReplayLedger.Proofs.Interleaving
import ReplayLedger.Proofs.Verdict
import ReplayLedger.Proofs.Ownership
import ReplayLedger.Proofs.Watermark
import ReplayLedger.Proofs.Removal
import ReplayLedger.Proofs.Confinement
import ReplayLedger.Proofs.Conditions
import ReplayLedger.Proofs.Judgement
import ReplayLedger.Proofs.Driver
import ReplayLedger.Proofs.Feeding
import ReplayLedger.Proofs.Stability
import ReplayLedger.Proofs.Causality
import ReplayLedger.Proofs.Chronicle
import ReplayLedger.Proofs.Series
import ReplayLedger.Proofs.PointInTime
import ReplayLedger.Proofs.BlockWrites
import ReplayLedger.Proofs.SortedKeys
import ReplayLedger.Proofs.ContractDivergence
import ReplayLedger.Proofs.ComparedSet
import ReplayLedger.Proofs.PairwiseComparison
import ReplayLedger.Proofs.Refusals
import ReplayLedger.Proofs.EntryPatch
import ReplayLedger.Proofs.LookUps
import ReplayLedger.Proofs.Overflow
import ReplayLedger.Proofs.HexSpelling
import ReplayLedger.Proofs.ReportDocument
import ReplayLedger.Proofs.BatchPrefix
import ReplayLedger.Proofs.PayloadForms
import ReplayLedger.Proofs.LockHistory
import ReplayLedger.Proofs.InsertionOrder
import ReplayLedger.Proofs.NamedReferences
import ReplayLedger.Proofs.ExitCodes
