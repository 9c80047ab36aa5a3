import GuardianRelay.Bytes.Cursor
import GuardianRelay.Text.Hex
import GuardianRelay.Text.Base58
import GuardianRelay.Text.Base64
import GuardianRelay.Text.Integer
import GuardianRelay.Text.Search
import GuardianRelay.Hash.Keccak
import GuardianRelay.Hash.Sha256
import GuardianRelay.Hash.Sha512
import GuardianRelay.Curve.Modular
import GuardianRelay.Curve.Secp256k1
import GuardianRelay.Curve.Edwards25519
import GuardianRelay.Amount
import GuardianRelay.Error
import GuardianRelay.Attestation.Verification
import GuardianRelay.Payload.TokenTransfer
import GuardianRelay.Payload.Message
import GuardianRelay.Signer
import GuardianRelay.Derivation.Account
import GuardianRelay.Json.Parser
import GuardianRelay.Json.Printer
import GuardianRelay.Transaction
import GuardianRelay.Endpoint
import GuardianRelay.Lookup
import GuardianRelay.Evm.Envelope
import GuardianRelay.Evm.Receipt
import GuardianRelay.Signer.Keypair
import GuardianRelay.Svm.Account
import GuardianRelay.Svm.Message
import GuardianRelay.Svm.Messenger
import GuardianRelay.Svm.TokenIntegration
import GuardianRelay.Config
import GuardianRelay.Evm.Node
import GuardianRelay.Evm.Endpoint
import GuardianRelay.Svm.Endpoint
import GuardianRelay.Pairing
import GuardianRelay.Poller
import GuardianRelay.Relay
import GuardianRelay.Store
import GuardianRelay.Service
import GuardianRelay.Config.Reader
import GuardianRelay.Client
import GuardianRelay.Evm.Client
import GuardianRelay.Lookup.Client
import GuardianRelay.Svm.Client
import GuardianRelay.CommandLine.Arguments
import GuardianRelay.CommandLine.Command
import GuardianRelay.CommandLine.Connection
import GuardianRelay.CommandLine.Run
import GuardianRelay.Main
import GuardianRelay.Proofs.Bytes
import GuardianRelay.Proofs.Decoder
import GuardianRelay.Proofs.Outcome
import GuardianRelay.Proofs.Attestation.RoundTrip
import GuardianRelay.Proofs.Attestation.Quorum
import GuardianRelay.Proofs.Program
import GuardianRelay.Proofs.Relay
import GuardianRelay.Proofs.Evm.Abi
import GuardianRelay.Proofs.Evm.Envelope
import GuardianRelay.Proofs.Evm.Execution
import GuardianRelay.Proofs.Evm.Redemption
import GuardianRelay.Proofs.Evm.Race
import GuardianRelay.Proofs.Svm.Length
import GuardianRelay.Proofs.Svm.Message
import GuardianRelay.Proofs.Svm.Submission
import GuardianRelay.Proofs.Svm.Redemption
import GuardianRelay.Proofs.Registration
import GuardianRelay.Proofs.Svm.Layout
import GuardianRelay.Proofs.Evm.Rlp
import GuardianRelay.Proofs.Evm.Signing
import GuardianRelay.Proofs.Svm.Delivery
import GuardianRelay.Proofs.Publication
import GuardianRelay.Proofs.Derivation
import GuardianRelay.Proofs.Attestation.Identity
import GuardianRelay.Proofs.Steps
import GuardianRelay.Proofs.Evm.Nonces
import GuardianRelay.Proofs.Text
import GuardianRelay.Proofs.Svm.Log
import GuardianRelay.Proofs.Svm.Sending
import GuardianRelay.Proofs.Svm.Ledger
import GuardianRelay.Proofs.Poller
import GuardianRelay.Proofs.Resumption
import GuardianRelay.Proofs.Calls
import GuardianRelay.Proofs.Octets
import GuardianRelay.Proofs.Hex
import GuardianRelay.Proofs.Base64
import GuardianRelay.Proofs.Http.Url
import GuardianRelay.Proofs.Service
import GuardianRelay.Proofs.Lookup
import GuardianRelay.Proofs.Latest
import GuardianRelay.Proofs.Store
import GuardianRelay.Proofs.Svm.Posting
import GuardianRelay.Proofs.Registry
import GuardianRelay.Proofs.Evm.Registry
import GuardianRelay.Proofs.Svm.Registry
import GuardianRelay.Proofs.ReadBack
import GuardianRelay.Proofs.Pairing
import GuardianRelay.Proofs.Retries
import GuardianRelay.Proofs.Pairing.Endpoints
import GuardianRelay.Proofs.Amount
import GuardianRelay.Proofs.Evm.Preflight
import GuardianRelay.Proofs.Decoder.Extent
import GuardianRelay.Proofs.Attestation.Extent
import GuardianRelay.Proofs.Payload.TokenTransfer
import GuardianRelay.Proofs.Payload.Message
import GuardianRelay.Proofs.Derivation.Search
import GuardianRelay.Proofs.Svm.Compilation
import GuardianRelay.Proofs.Svm.Instructions
import GuardianRelay.Proofs.Endpoint
import GuardianRelay.Proofs.Evm.Calldata
import GuardianRelay.Proofs.Evm.Sending
import GuardianRelay.Proofs.Svm.Clearance
import GuardianRelay.Proofs.Poller.Pace
import GuardianRelay.Proofs.Polling
import GuardianRelay.Proofs.Evm.Confirmation
import GuardianRelay.Proofs.Svm.Confirmation
import GuardianRelay.Proofs.Confirmation
import GuardianRelay.Proofs.Config
import GuardianRelay.Proofs.Hex.Readers
import GuardianRelay.Proofs.Decoder.Buffer
import GuardianRelay.Proofs.Svm.Delimiting
import GuardianRelay.Proofs.Hex.Address
import GuardianRelay.Proofs.CommandLine.Session
