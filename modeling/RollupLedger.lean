import RollupLedger.Address
import RollupLedger.Binary64
import RollupLedger.Bytes.Basic
import RollupLedger.Bytes.Hex
import RollupLedger.Bytes.Keccak
import RollupLedger.Chain
import RollupLedger.Client.Balance
import RollupLedger.Client.Basic
import RollupLedger.Client.Block
import RollupLedger.Client.Description
import RollupLedger.Client.Error
import RollupLedger.Client.Inquiry
import RollupLedger.Client.Reference
import RollupLedger.Client.Session
import RollupLedger.Client.Settings
import RollupLedger.Client.Status
import RollupLedger.Client.Wallet
import RollupLedger.Command.Basic
import RollupLedger.Context
import RollupLedger.Envelope.Basic
import RollupLedger.Envelope.Rlp
import RollupLedger.Event
import RollupLedger.Fee.CompressedSize
import RollupLedger.Fee.Data
import RollupLedger.Fee.Execution
import RollupLedger.Fee.Scalar
import RollupLedger.Flatten.Basic
import RollupLedger.Flatten.Error
import RollupLedger.Flatten.Posting
import RollupLedger.Gate
import RollupLedger.Json.Basic
import RollupLedger.Json.Decode
import RollupLedger.Json.Reader
import RollupLedger.Json.Writer
import RollupLedger.Ledger.Amount
import RollupLedger.Ledger.Basic
import RollupLedger.Ledger.Conservation
import RollupLedger.Ledger.Wire
import RollupLedger.Main
import RollupLedger.Numeral
import RollupLedger.Proxy.Basic
import RollupLedger.Proxy.Method
import RollupLedger.Proxy.Parameters
import RollupLedger.Request.Plan
import RollupLedger.Request.Retry
import RollupLedger.Request.Run
import RollupLedger.Request.Scenario
import RollupLedger.Request.Script
import RollupLedger.Request.System
import RollupLedger.Request.World
import RollupLedger.Setup.Arguments
import RollupLedger.Setup.Configuration
import RollupLedger.Setup.EnvFile
import RollupLedger.Sum
import RollupLedger.Text.Blank
import RollupLedger.Text.Quoted
import RollupLedger.Text.Runs
import RollupLedger.Text.Unseen
import RollupLedger.Trace.Arena
import RollupLedger.Trace.CallKind
import RollupLedger.Url.Basic
import RollupLedger.Url.Domain.Allowed
import RollupLedger.Url.Domain.Basic
import RollupLedger.Url.Domain.Composed
import RollupLedger.Url.Domain.Composite
import RollupLedger.Url.Domain.Direction
import RollupLedger.Url.Domain.Joining
import RollupLedger.Url.Domain.Mark
import RollupLedger.Url.Domain.Meaning
import RollupLedger.Url.Domain.Spelling
import RollupLedger.Url.Escape
import RollupLedger.Url.Host
import RollupLedger.Url.Punycode
import RollupLedger.Url.Split
import RollupLedger.Wire.BalanceReply
import RollupLedger.Wire.CallFrame
import RollupLedger.Wire.Header
import RollupLedger.Wire.NodeState
import RollupLedger.Wire.Quantity
import RollupLedger.Wire.Receipt
import RollupLedger.Wire.Scalar
import RollupLedger.Wire.SignedTransaction
import RollupLedger.Word
import RollupLedger.Proofs.Block.Answers
import RollupLedger.Proofs.Block.Complete
import RollupLedger.Proofs.Block.Faithful
import RollupLedger.Proofs.Block.Parts
import RollupLedger.Proofs.Block.Questions
import RollupLedger.Proofs.Block.Receipts
import RollupLedger.Proofs.Block.Reread
import RollupLedger.Proofs.Block.Requests
import RollupLedger.Proofs.Block.Timing
import RollupLedger.Proofs.Bytes.Address
import RollupLedger.Proofs.Bytes.BigEndian
import RollupLedger.Proofs.Bytes.Spelling
import RollupLedger.Proofs.Client.Admission
import RollupLedger.Proofs.Client.Balance
import RollupLedger.Proofs.Client.Cancelled
import RollupLedger.Proofs.Client.Checks
import RollupLedger.Proofs.Client.Document
import RollupLedger.Proofs.Client.Naming
import RollupLedger.Proofs.Client.Occasion
import RollupLedger.Proofs.Client.Plans
import RollupLedger.Proofs.Client.Reference
import RollupLedger.Proofs.Client.Respelling
import RollupLedger.Proofs.Client.Rounds
import RollupLedger.Proofs.Client.Template
import RollupLedger.Proofs.Client.Timestamps
import RollupLedger.Proofs.Envelope.Contents
import RollupLedger.Proofs.Envelope.Rlp
import RollupLedger.Proofs.Fee.Computed
import RollupLedger.Proofs.Fee.Reported
import RollupLedger.Proofs.Fee.Scalar
import RollupLedger.Proofs.Flatten.Accounts
import RollupLedger.Proofs.Flatten.Charges
import RollupLedger.Proofs.Flatten.Conservation
import RollupLedger.Proofs.Flatten.ErrorTable
import RollupLedger.Proofs.Flatten.Flow
import RollupLedger.Proofs.Flatten.Independence
import RollupLedger.Proofs.Flatten.Links
import RollupLedger.Proofs.Flatten.Postings
import RollupLedger.Proofs.Flatten.Refusals
import RollupLedger.Proofs.Flatten.Walk
import RollupLedger.Proofs.Gate.Custody
import RollupLedger.Proofs.Json.Alike
import RollupLedger.Proofs.Json.Closed
import RollupLedger.Proofs.Json.Records
import RollupLedger.Proofs.Ledger.Acceptance
import RollupLedger.Proofs.Ledger.Exactness
import RollupLedger.Proofs.Ledger.Rendering
import RollupLedger.Proofs.Ledger.RoundTrip
import RollupLedger.Proofs.Ledger.Total
import RollupLedger.Proofs.Lists
import RollupLedger.Proofs.Numeral.Decimal
import RollupLedger.Proofs.Numeral.Spelling
import RollupLedger.Proofs.Proxy.Meaning
import RollupLedger.Proofs.Proxy.Requests
import RollupLedger.Proofs.Request.Admission
import RollupLedger.Proofs.Request.Completion
import RollupLedger.Proofs.Request.Custody
import RollupLedger.Proofs.Request.Deciding
import RollupLedger.Proofs.Request.Exchanges
import RollupLedger.Proofs.Request.Lineage
import RollupLedger.Proofs.Request.Nested
import RollupLedger.Proofs.Request.Progress
import RollupLedger.Proofs.Request.Single
import RollupLedger.Proofs.Request.Steady
import RollupLedger.Proofs.Request.Switchboard
import RollupLedger.Proofs.Trace.Layout
import RollupLedger.Proofs.Trace.Placement
import RollupLedger.Proofs.Trace.Preorder
import RollupLedger.Proofs.Trace.Walk
import RollupLedger.Proofs.Wire.RoundTrip
import RollupLedger.Proofs.Wire.Values
