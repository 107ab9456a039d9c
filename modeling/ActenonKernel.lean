import ActenonKernel.Lib.MerkleWalk
import ActenonKernel.Lib.MerkleProof
import ActenonKernel.Lib.Hex
import ActenonKernel.Lib.Calendar
import ActenonKernel.Lib.Digits
import ActenonKernel.Lib.Text
import ActenonKernel.Lib.Utf8
import ActenonKernel.Lib.Fallible
import ActenonKernel.Lib.Program
import ActenonKernel.Lib.Table
import ActenonKernel.Core.Json
import ActenonKernel.Core.Same
import ActenonKernel.Core.Errors
import ActenonKernel.Models.Timestamp
import ActenonKernel.Models.Contracts
import ActenonKernel.Proof.Canonical
import ActenonKernel.Proof.CanonicalInj
import ActenonKernel.Proof.CanonicalIff
import ActenonKernel.TypeScript.Canonical
import ActenonKernel.Models.SignedPayload
import ActenonKernel.Models.Runtime
import ActenonKernel.Proof.Service
import ActenonKernel.Proof.Binding
import ActenonKernel.Models.RoundTrip
import ActenonKernel.Proof.Minting
import ActenonKernel.Verifier.Transparency
import ActenonKernel.Verifier.Inclusion
import ActenonKernel.Verifier.Consistency
import ActenonKernel.Replay.Store
import ActenonKernel.Replay.History
import ActenonKernel.Receipts.Factory
import ActenonKernel.Execution.World
import ActenonKernel.Execution.Trace
import ActenonKernel.Replay.Client
import ActenonKernel.Replay.Alone
import ActenonKernel.Execution.Effects
import ActenonKernel.Execution.Executor
import ActenonKernel.Execution.Frames
import ActenonKernel.Execution.SingleUse
import ActenonKernel.Execution.Window
import ActenonKernel.Verifier.Middleware
import ActenonKernel.Execution.EffectReceipts
import ActenonKernel.Execution.Operations
import ActenonKernel.Execution.Outcomes
import ActenonKernel.Escrow.Sqlite
import ActenonKernel.Execution.Refused
import ActenonKernel.Replay.Rollback
import ActenonKernel.Verifier.KeySet
import ActenonKernel.Verifier.TrustArtifacts
import ActenonKernel.Receipts.Attestation
import ActenonKernel.Verifier.Separation
import ActenonKernel.Escrow.Calls
import ActenonKernel.Escrow.Backends
import ActenonKernel.Escrow.Agreement
import ActenonKernel.Lib.PyString
import ActenonKernel.Boundary.Verifier
import ActenonKernel.Proof.CanonicalMembers
import ActenonKernel.Boundary.SingleUse
import ActenonKernel.Boundary.Modes
import ActenonKernel.Preflight.PolicyPacks
import ActenonKernel.Preflight.Engine
import ActenonKernel.Preflight.Asks
import ActenonKernel.Preflight.Separation
import ActenonKernel.Preflight.FailsClosed
import ActenonKernel.Preflight.MoreApprovals
import ActenonKernel.Lib.FirstBy
import ActenonKernel.Evidence.Query
import ActenonKernel.Evidence.Soundness
import ActenonKernel.Models.TimestampOrder
import ActenonKernel.Replay.Expiry
import ActenonKernel.Core.Equal
import ActenonKernel.Policy.Engine
import ActenonKernel.Preflight.Aggregation
import ActenonKernel.Lib.BoundedWalk
import ActenonKernel.Evidence.ReceiptChain
import ActenonKernel.Lib.HashChain
import ActenonKernel.Anchors.Chain
import ActenonKernel.Lib.FirstFault
import ActenonKernel.Models.Malformed
import ActenonKernel.Receipts.Readable
import ActenonKernel.Boundary.Gate
import ActenonKernel.Proof.CanonicalSize
import ActenonKernel.Execution.Evidence
import ActenonKernel.Execution.Reports
import ActenonKernel.Execution.Attempts
import ActenonKernel.Policy.ReceiptEvidence
import ActenonKernel.Policy.Refund
import ActenonKernel.Policy.InvoicePayment
import ActenonKernel.Policy.InvoiceDecides
import ActenonKernel.Receipts.Decision
import ActenonKernel.Boundary.Intake
import ActenonKernel.Boundary.Admission
import ActenonKernel.Boundary.Decides
import ActenonKernel.Lib.NextDay
import ActenonKernel.Models.TimestampCodec
import ActenonKernel.Lib.Noninterference
import ActenonKernel.Proof.Disclosure
import ActenonKernel.Proof.Discovery
import ActenonKernel.Proof.WellKnown
import ActenonKernel.Proof.Resolution
import ActenonKernel.Proof.FailClosed
import ActenonKernel.Lib.JsonText
import ActenonKernel.Lib.JsonReader
import ActenonKernel.Lib.JsonSpelling
import ActenonKernel.Lib.Utf16
import ActenonKernel.Core.StrictLoads
import ActenonKernel.TypeScript.StrictJson
import ActenonKernel.TypeScript.StrictGrammar
import ActenonKernel.TypeScript.StrictAgree
import ActenonKernel.Lib.JsonWriter
import ActenonKernel.Proof.CanonicalReads
import ActenonKernel.Anchors.Models
import ActenonKernel.Anchors.Log
import ActenonKernel.Anchors.Entries
import ActenonKernel.Anchors.Verify
import ActenonKernel.Anchors.Runs
import ActenonKernel.Lib.Base64
import ActenonKernel.Security.Posture
import ActenonKernel.Security.Intent
import ActenonKernel.Signers.Local
import ActenonKernel.Signers.KeyLifecycle
import ActenonKernel.Signers.Managed
import ActenonKernel.Signers.Rotation
import ActenonKernel.Receipts.Dumps
import ActenonKernel.Receipts.Record
import ActenonKernel.Receipts.Refusals
import ActenonKernel.Receipts.Store
import ActenonKernel.Receipts.Writers
