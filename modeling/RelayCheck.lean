import RelayCheck.Bytes
import RelayCheck.Decimal.Shortest
import RelayCheck.Decimal.Text
import RelayCheck.Digest.Block
import RelayCheck.Digest.Sha1
import RelayCheck.Digest.Sha256
import RelayCheck.Frame.Basic
import RelayCheck.Frame.Wire
import RelayCheck.Json.Canonical
import RelayCheck.Json.Fault
import RelayCheck.Json.Kind
import RelayCheck.Json.Layout
import RelayCheck.Json.Number
import RelayCheck.Json.Numeral
import RelayCheck.Json.Printer
import RelayCheck.Json.Reading
import RelayCheck.Json.StringText
import RelayCheck.Json.Token
import RelayCheck.Json.Tree
import RelayCheck.Json.Value
import RelayCheck.Message.Client
import RelayCheck.Message.Envelope
import RelayCheck.Message.Relay
import RelayCheck.Note.Draft
import RelayCheck.Note.Error
import RelayCheck.Note.Event
import RelayCheck.Note.Filter
import RelayCheck.Note.Identifier
import RelayCheck.Note.Signer
import RelayCheck.Probe.Blocking
import RelayCheck.Probe.Config
import RelayCheck.Probe.Connection
import RelayCheck.Probe.Cooperative
import RelayCheck.Probe.Error
import RelayCheck.Probe.Line
import RelayCheck.Probe.Plan
import RelayCheck.Probe.Reply
import RelayCheck.Probe.Report
import RelayCheck.Proofs.Frame.Encoding
import RelayCheck.Proofs.Frame.Feed
import RelayCheck.Proofs.Frame.Format
import RelayCheck.Proofs.Frame.Masking
import RelayCheck.Proofs.Frame.Sequence
import RelayCheck.Proofs.Frame.Wire
import RelayCheck.Proofs.Json.Agreement
import RelayCheck.Proofs.Json.Canonical
import RelayCheck.Proofs.Json.Entries
import RelayCheck.Proofs.Json.Layout
import RelayCheck.Proofs.Json.Legible
import RelayCheck.Proofs.Json.Members
import RelayCheck.Proofs.Json.Numeral
import RelayCheck.Proofs.Json.Printer
import RelayCheck.Proofs.Json.Same
import RelayCheck.Proofs.Json.StringText
import RelayCheck.Proofs.Json.Text
import RelayCheck.Proofs.Json.Token
import RelayCheck.Proofs.Json.Tree
import RelayCheck.Proofs.Message.Client
import RelayCheck.Proofs.Message.Enclosure
import RelayCheck.Proofs.Message.Relay
import RelayCheck.Proofs.Message.Serialization
import RelayCheck.Proofs.Note.Binding
import RelayCheck.Proofs.Note.Building
import RelayCheck.Proofs.Note.Canonical
import RelayCheck.Proofs.Note.Filtering
import RelayCheck.Proofs.Note.Identifier
import RelayCheck.Proofs.Note.Record
import RelayCheck.Proofs.Note.Session
import RelayCheck.Proofs.Note.SharedSecret
import RelayCheck.Proofs.Note.Spelling
import RelayCheck.Proofs.Probe.Agreement
import RelayCheck.Proofs.Probe.Answer
import RelayCheck.Proofs.Probe.Arrival
import RelayCheck.Proofs.Probe.Blocking
import RelayCheck.Proofs.Probe.Call
import RelayCheck.Proofs.Probe.Coherence
import RelayCheck.Proofs.Probe.Config
import RelayCheck.Proofs.Probe.Conservation
import RelayCheck.Proofs.Probe.Containment
import RelayCheck.Proofs.Probe.Cooperative
import RelayCheck.Proofs.Probe.Deadline
import RelayCheck.Proofs.Probe.Delivery
import RelayCheck.Proofs.Probe.Discipline
import RelayCheck.Proofs.Probe.Draining
import RelayCheck.Proofs.Probe.Reply
import RelayCheck.Proofs.Probe.Stage
import RelayCheck.Proofs.Probe.Verdict
import RelayCheck.Proofs.Probe.Wait
import RelayCheck.Proofs.Text.Blank
import RelayCheck.Proofs.Text.Hex
import RelayCheck.Proofs.Text.Mark
import RelayCheck.Proofs.Text.Utf8
import RelayCheck.Proofs.Upgrade.Grammar
import RelayCheck.Proofs.Upgrade.Reading
import RelayCheck.Proofs.Upgrade.Request
import RelayCheck.Proofs.Upgrade.Response
import RelayCheck.Schnorr.Curve
import RelayCheck.Schnorr.Signature
import RelayCheck.Text.Base64
import RelayCheck.Text.Cased
import RelayCheck.Text.Hex
import RelayCheck.Text.Lowercase
import RelayCheck.Text.Quoted
import RelayCheck.Text.Span
import RelayCheck.Text.Utf8
import RelayCheck.Text.Visible
import RelayCheck.Upgrade.Request
import RelayCheck.Upgrade.Response
