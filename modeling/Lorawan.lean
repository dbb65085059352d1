import Lorawan.Identifier
import Lorawan.Base64
import Lorawan.Codec.Error
import Lorawan.Crypto.Kek
import Lorawan.Crypto.FramePayload
import Lorawan.Crypto.SessionKey
import Lorawan.Text.Utf8
import Lorawan.Text.Blank
import Lorawan.Decimal.Layout
import Lorawan.Decimal.Reading
import Lorawan.Json.Shape
import Lorawan.Json.Writer
import Lorawan.Time.Rfc3339
import Lorawan.Codec.Cayenne
import Lorawan.Codec.PayloadCodec
import Lorawan.Request
import Lorawan.Script.Grammar
import Lorawan.Script.Operator
import Lorawan.Script.Duration
import Lorawan.Pattern.Acceptance
import Lorawan.Codec.Script
import Lorawan.Store.Access
import Lorawan.Ingress.Worker
import Lorawan.Ingress.Round
import Lorawan.Trace
import Lorawan.Migration
import Lorawan.Settings
import Lorawan.Supervisor.Lifecycle
import Lorawan.Supervisor.Timeline
import Lorawan.Proofs.Codec.Abort
import Lorawan.Proofs.Codec.Magnitude
import Lorawan.Proofs.Codec.RoundTrip
import Lorawan.Proofs.Store.Lookup
import Lorawan.Proofs.Store.Mutation
import Lorawan.Proofs.Store.Serial
import Lorawan.Proofs.Service.Conversation
import Lorawan.Proofs.Service.Run
import Lorawan.Proofs.Service.Report
import Lorawan.Proofs.Service.Uplink
import Lorawan.Proofs.Service.Rows
import Lorawan.Proofs.Service.Delivery
import Lorawan.Proofs.Service.Decoding
import Lorawan.Proofs.Service.Failure
import Lorawan.Proofs.Service.TwoRuns
import Lorawan.Proofs.Service.Tolerance
import Lorawan.Proofs.Ingress.Interleaving
import Lorawan.Proofs.Ingress.Session
import Lorawan.Proofs.Ingress.Redelivery
import Lorawan.Proofs.Ingress.Routing
import Lorawan.Proofs.Ingress.Settlement
import Lorawan.Proofs.Ingress.Round
import Lorawan.Proofs.Ingress.Loop
import Lorawan.Proofs.Ingress.Provenance
import Lorawan.Proofs.Service.Dispatch
import Lorawan.Proofs.Service.Footprint
import Lorawan.Proofs.Service.Policy
import Lorawan.Proofs.Service.Slice
import Lorawan.Proofs.Service.Locality
import Lorawan.Proofs.Ingress.Independence
import Lorawan.Proofs.Supervisor.Course
import Lorawan.Proofs.Supervisor.Outcome
import Lorawan.Proofs.Supervisor.Timeline
import Lorawan.Proofs.Supervisor.Shutdown
import Lorawan.Proofs.Codec.Readings
import Lorawan.Proofs.Codec.Payload
import Lorawan.Proofs.Codec.Agreement
import Lorawan.Proofs.Crypto.Aes
import Lorawan.Proofs.Crypto.Keystream
import Lorawan.Proofs.Crypto.SessionKey
import Lorawan.Proofs.Crypto.KeyWrap
import Lorawan.Proofs.Crypto.Kek
import Lorawan.Proofs.Json.Members
import Lorawan.Proofs.Codec.Encoding
import Lorawan.Proofs.Service.Activation
import Lorawan.Proofs.Codec.Refusal
import Lorawan.Proofs.Text.Hex
import Lorawan.Proofs.Text.Pieces
import Lorawan.Proofs.Crypto.KekEntries
import Lorawan.Proofs.Settings.KekList
import Lorawan.Proofs.Record.ReadBack
import Lorawan.Proofs.Text.Identifier
import Lorawan.Proofs.Publication.Subject
import Lorawan.Proofs.Crypto.Secrecy
import Lorawan.Proofs.Service.Secrecy
import Lorawan.Proofs.Json.Whole
import Lorawan.Proofs.Json.Form
import Lorawan.Proofs.Json.Part
import Lorawan.Proofs.Record.Request
