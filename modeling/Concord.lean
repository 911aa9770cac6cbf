import Concord.Act
import Concord.Assert.Fees
import Concord.Assert.Key
import Concord.Assert.Skip
import Concord.Context
import Concord.Curve.Edwards25519
import Concord.Curve.Modular
import Concord.Curve.Secp256k1
import Concord.Curve.Sha512
import Concord.Entity
import Concord.Failure
import Concord.Fee.Agreement
import Concord.Fee.Amount
import Concord.Fee.Custom
import Concord.Fee.Mirror
import Concord.Http.Exchange
import Concord.Http.Status
import Concord.Json.Parser
import Concord.Json.Printer
import Concord.Json.Shape
import Concord.Json.Value
import Concord.Key.Algorithm
import Concord.Key.Derived
import Concord.Key.Encoded
import Concord.Key.Error
import Concord.Key.Framing
import Concord.Key.Generation
import Concord.Key.Message
import Concord.Key.Message.Decoder
import Concord.Key.Observed
import Concord.Key.Raw
import Concord.Key.Spec
import Concord.Key.Tree
import Concord.Key.Wire
import Concord.Number.Binary64
import Concord.Poll.Budget
import Concord.Poll.Check
import Concord.Poll.Clock
import Concord.Poll.Duration
import Concord.Proofs.Act
import Concord.Proofs.Assert.Convergence
import Concord.Proofs.Assert.Fees
import Concord.Proofs.Assert.Generated
import Concord.Proofs.Assert.Key
import Concord.Proofs.Assert.Paused
import Concord.Proofs.Assert.Persistence
import Concord.Proofs.Assert.Replay
import Concord.Proofs.Assert.Timeout
import Concord.Proofs.Fee.Amount
import Concord.Proofs.Fee.Canonical
import Concord.Proofs.Fee.FirstFit
import Concord.Proofs.Fee.Indexing
import Concord.Proofs.Fee.Json
import Concord.Proofs.Fee.Matching
import Concord.Proofs.Fee.Mirror
import Concord.Proofs.Fee.Pairing
import Concord.Proofs.Fee.Spelling
import Concord.Proofs.Json.Exact
import Concord.Proofs.Json.Number
import Concord.Proofs.Json.Printed
import Concord.Proofs.Json.Record
import Concord.Proofs.Key.Agreement
import Concord.Proofs.Key.Bounds
import Concord.Proofs.Key.Consumption
import Concord.Proofs.Key.Decoded
import Concord.Proofs.Key.Depth
import Concord.Proofs.Key.Expansion
import Concord.Proofs.Key.Framing
import Concord.Proofs.Key.Generation
import Concord.Proofs.Key.Injective
import Concord.Proofs.Key.Legible
import Concord.Proofs.Key.Message
import Concord.Proofs.Key.Observed
import Concord.Proofs.Key.Separation
import Concord.Proofs.Key.Spelling
import Concord.Proofs.Key.Threshold
import Concord.Proofs.Key.Traffic
import Concord.Proofs.Key.Tree
import Concord.Proofs.Key.Truncation
import Concord.Proofs.Key.Wire
import Concord.Proofs.Number.Shortest
import Concord.Proofs.Poll.Paused
import Concord.Proofs.Poll.Run
import Concord.Proofs.Random.Seed
import Concord.Proofs.Rpc.Call
import Concord.Proofs.Rpc.Exchange
import Concord.Proofs.Rpc.Http
import Concord.Proofs.Rpc.Interleaving
import Concord.Proofs.Rpc.Outcome
import Concord.Proofs.Rpc.Session
import Concord.Proofs.Settings.Validity
import Concord.Proofs.Settings.Written
import Concord.Proofs.Simulated.History
import Concord.Proofs.Simulated.LastWrite
import Concord.Proofs.Simulated.Mirror
import Concord.Proofs.Simulated.Node
import Concord.Proofs.Simulated.Requests
import Concord.Proofs.Simulated.Secrets
import Concord.Proofs.Source.Rest
import Concord.Proofs.Text.Denotation
import Concord.Proofs.Text.Hex
import Concord.Proofs.Text.Numeral
import Concord.Proofs.Text.Spelling
import Concord.Proofs.Url.Address
import Concord.Proofs.Yaml.Document
import Concord.Proofs.Yaml.Line
import Concord.Proofs.Yaml.Number
import Concord.Proofs.Yaml.Scalar
import Concord.Random.ChaCha12
import Concord.Random.Seed
import Concord.Random.Stream
import Concord.Rpc.Client
import Concord.Rpc.Error
import Concord.Rpc.Exchange
import Concord.Rpc.Http
import Concord.Rpc.Setup
import Concord.Settings
import Concord.Settings.Parts
import Concord.Settings.Validity
import Concord.Settings.Written
import Concord.Simulated.Mirror
import Concord.Simulated.Node
import Concord.Source.Consensus
import Concord.Source.Mirror
import Concord.Source.Rest
import Concord.Table
import Concord.Text.Blank
import Concord.Text.Hex
import Concord.Text.Numeral
import Concord.Text.Printable
import Concord.Text.Quoted
import Concord.Text.Split
import Concord.Url.Address
import Concord.Url.Domain
import Concord.Url.Domain.Composition
import Concord.Url.Domain.Mapping
import Concord.Url.Domain.Properties
import Concord.Url.Domain.Table
import Concord.Url.Host
import Concord.Url.Ipv4
import Concord.Url.Ipv6
import Concord.Url.Percent
import Concord.Url.Punycode
import Concord.Yaml.Cursor
import Concord.Yaml.Document
import Concord.Yaml.Node
import Concord.Yaml.Scalar
import Concord.Yaml.Tag
import Concord.Yaml.Token
