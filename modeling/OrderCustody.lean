import OrderCustody.Address
import OrderCustody.Aead.Basic
import OrderCustody.Aead.ChaCha20
import OrderCustody.Aead.Poly1305
import OrderCustody.Audit.Event
import OrderCustody.Audit.Trail
import OrderCustody.Binary64.Basic
import OrderCustody.Binary64.Shortest
import OrderCustody.Bytes.Basic
import OrderCustody.Bytes.Hex
import OrderCustody.Calendar.Clock
import OrderCustody.Calendar.Date
import OrderCustody.Calendar.Rfc3339
import OrderCustody.Calendar.Timestamp
import OrderCustody.Custody.SealedKey
import OrderCustody.Decimal
import OrderCustody.Desk.Basic
import OrderCustody.Desk.History
import OrderCustody.Desk.Wire
import OrderCustody.Dotenv.Basic
import OrderCustody.Dotenv.Lines
import OrderCustody.Dotenv.Value
import OrderCustody.Gateway.Activation
import OrderCustody.Gateway.Admin
import OrderCustody.Gateway.Basic
import OrderCustody.Gateway.History
import OrderCustody.Gateway.Report
import OrderCustody.Gateway.Request
import OrderCustody.Gateway.Response
import OrderCustody.Hash.Keccak
import OrderCustody.Hash.Sha256
import OrderCustody.History
import OrderCustody.Json.Cause
import OrderCustody.Json.Lexer
import OrderCustody.Json.Reader
import OrderCustody.Json.Record
import OrderCustody.Json.Skip
import OrderCustody.Json.Writer
import OrderCustody.KeySource.Basic
import OrderCustody.KeySource.Material
import OrderCustody.Log.Filter
import OrderCustody.Log.Line
import OrderCustody.Main
import OrderCustody.Network.SocketAddress
import OrderCustody.Order.Basic
import OrderCustody.Order.Field
import OrderCustody.Order.Request
import OrderCustody.Order.Wire
import OrderCustody.Proofs.Address
import OrderCustody.Proofs.Audit.Decoding
import OrderCustody.Proofs.Bytes.Text
import OrderCustody.Proofs.Calendar.Rfc3339
import OrderCustody.Proofs.Decimal
import OrderCustody.Proofs.Desk.Accounting
import OrderCustody.Proofs.Desk.Entries
import OrderCustody.Proofs.Desk.Occupancy
import OrderCustody.Proofs.Desk.Provenance
import OrderCustody.Proofs.Desk.Renewal
import OrderCustody.Proofs.Desk.Secrecy
import OrderCustody.Proofs.Desk.Transition
import OrderCustody.Proofs.Gateway.Transition
import OrderCustody.Proofs.Gateway.Unprivileged
import OrderCustody.Proofs.History
import OrderCustody.Proofs.Json.Following
import OrderCustody.Proofs.Json.Passing
import OrderCustody.Proofs.Json.Record
import OrderCustody.Proofs.Json.Rewriting
import OrderCustody.Proofs.Json.Scalars
import OrderCustody.Proofs.Json.Settling
import OrderCustody.Proofs.Json.Syntax
import OrderCustody.Proofs.Json.Text
import OrderCustody.Proofs.Order.Bounded
import OrderCustody.Proofs.Order.Interchange
import OrderCustody.Proofs.Secp256k1.Primality
import OrderCustody.Proofs.Secp256k1.Residue
import OrderCustody.Proofs.Session.Endings
import OrderCustody.Proofs.Session.Likeness
import OrderCustody.Proofs.Session.PromptExpiry
import OrderCustody.Proofs.Session.Spending
import OrderCustody.Proofs.Session.Transition
import OrderCustody.Proofs.Trial
import OrderCustody.Proofs.TypedData.Binding
import OrderCustody.Refusal
import OrderCustody.Secp256k1.Ecdsa
import OrderCustody.Secp256k1.Group
import OrderCustody.Secp256k1.Signer
import OrderCustody.Session.Basic
import OrderCustody.Session.History
import OrderCustody.Session.Keeper
import OrderCustody.Settings.Basic
import OrderCustody.Settings.CommandLine
import OrderCustody.Settings.Setting
import OrderCustody.Signing.Signature
import OrderCustody.Signing.Signer
import OrderCustody.Startup.Basic
import OrderCustody.Startup.Opening
import OrderCustody.Text.Alphanumeric
import OrderCustody.Text.Blank
import OrderCustody.Text.Quoted
import OrderCustody.Text.Ranges
import OrderCustody.Text.Unprintable
import OrderCustody.TypedData.Digest
import OrderCustody.TypedData.Domain
import OrderCustody.TypedData.Word
import OrderCustody.Proofs.Secp256k1.Curve
import OrderCustody.Proofs.Secp256k1.Multiple
import OrderCustody.Proofs.Secp256k1.Recovery
import OrderCustody.Proofs.Gateway.Malformed
import OrderCustody.Proofs.Session.Requests
import OrderCustody.Proofs.TypedData.Schema
import OrderCustody.Proofs.Bytes.Hex
import OrderCustody.Proofs.Address.Checksum
import OrderCustody.Proofs.Order.Grammar
import OrderCustody.Proofs.Aead.Opening
import OrderCustody.Proofs.Gateway.Credentials
import OrderCustody.Proofs.Gateway.Starting
import OrderCustody.Proofs.Gateway.Refusals
import OrderCustody.Proofs.KeySource.Agreement
import OrderCustody.Proofs.Secp256k1.Acceptance
import OrderCustody.Proofs.Desk.Acceptance
import OrderCustody.Proofs.Json.Writing
import OrderCustody.Proofs.Desk.Relays
import OrderCustody.Proofs.Custody.Sealing
import OrderCustody.Proofs.Session.Arrangement
import OrderCustody.Proofs.Json.Unambiguity
import OrderCustody.Proofs.Gateway.Answers
import OrderCustody.Proofs.Startup.Outcomes
import OrderCustody.Proofs.KeySource.Layout
import OrderCustody.Proofs.Gateway.Amounts
import OrderCustody.Proofs.Address.Canonical
