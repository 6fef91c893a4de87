import LedgerKeys.Bytes
import LedgerKeys.Text.Blank
import LedgerKeys.Text.Encoding
import LedgerKeys.Decimal.Shortest
import LedgerKeys.Json.Parser
import LedgerKeys.Json.Printer
import LedgerKeys.Hash.Sha256
import LedgerKeys.Hash.Sha512
import LedgerKeys.Value.Literal
import LedgerKeys.Value.Equality
import LedgerKeys.Signing
import LedgerKeys.Keygen.File
import LedgerKeys.Derivation
import LedgerKeys.Session
import LedgerKeys.Payload
import LedgerKeys.Proofs.Outcome
import LedgerKeys.Proofs.Derivation.Seed
import LedgerKeys.Proofs.Derivation.Attempt
import LedgerKeys.Proofs.Derivation.Search
import LedgerKeys.Proofs.Derivation.Preimage
import LedgerKeys.Proofs.Derivation.Splitting
import LedgerKeys.Proofs.Curve.Prime
import LedgerKeys.Proofs.Curve.Field
import LedgerKeys.Proofs.Curve.Addition
import LedgerKeys.Proofs.Curve.Group
import LedgerKeys.Proofs.Curve.Decompression
import LedgerKeys.Proofs.Curve.Order
import LedgerKeys.Proofs.Key.Generation
import LedgerKeys.Proofs.Derivation.Signer
import LedgerKeys.Proofs.Key.Halves
import LedgerKeys.Proofs.Signature.Operation
import LedgerKeys.Proofs.Signature.Equation
import LedgerKeys.Proofs.Signature.Verification
import LedgerKeys.Proofs.Base58.Rebase
import LedgerKeys.Proofs.Base58.Codec
import LedgerKeys.Proofs.Base58.Reading
import LedgerKeys.Proofs.Json.RoundTrip
import LedgerKeys.Proofs.Text.Utf8
import LedgerKeys.Proofs.Json.Limits
import LedgerKeys.Proofs.Json.Encoded
import LedgerKeys.Proofs.Key.Import
import LedgerKeys.Proofs.Keygen.Format
import LedgerKeys.Proofs.Files.Tree
import LedgerKeys.Proofs.Key.Export
import LedgerKeys.Proofs.Keygen.Writing
import LedgerKeys.Proofs.Keygen.Store
import LedgerKeys.Proofs.Derivation.Owner
import LedgerKeys.Proofs.Curve.Membership
import LedgerKeys.Proofs.Derivation.Checks
import LedgerKeys.Proofs.KeyList.Distinct
import LedgerKeys.Proofs.Files.Mapping
import LedgerKeys.Proofs.Keygen.Mirror
import LedgerKeys.Proofs.Keygen.Blinding
import LedgerKeys.Proofs.Keygen.Secrecy
import LedgerKeys.Proofs.Derivation.Scan
import LedgerKeys.Proofs.Derivation.Cause
import LedgerKeys.Proofs.Keygen.Refused
import LedgerKeys.Proofs.Key.Disclosure
import LedgerKeys.Proofs.Derivation.Convention
import LedgerKeys.Proofs.Derivation.Seeded
import LedgerKeys.Proofs.Keygen.Accepted
import LedgerKeys.Proofs.Key.Encodings
import LedgerKeys.Proofs.Base58.Length
import LedgerKeys.Proofs.Key.Entropy
import LedgerKeys.Proofs.Payload.RoundTrip
