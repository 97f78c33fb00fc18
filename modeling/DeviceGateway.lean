import DeviceGateway.Authority.Bridge
import DeviceGateway.Authority.Configured
import DeviceGateway.Authority.Exchange
import DeviceGateway.Authority.Registry
import DeviceGateway.Authority.Remote
import DeviceGateway.Authority.Scripted
import DeviceGateway.Bytes.Base64
import DeviceGateway.Bytes.Base64Strict
import DeviceGateway.Bytes.Hex
import DeviceGateway.Bytes.Sha256
import DeviceGateway.Bytes.Sha512
import DeviceGateway.Bytes.Utf8
import DeviceGateway.Bytes.Utf8Repair
import DeviceGateway.Certificate.Basic
import DeviceGateway.Certificate.Chain
import DeviceGateway.Certificate.Extension
import DeviceGateway.Certificate.Reader
import DeviceGateway.Certificate.Record
import DeviceGateway.Certificate.RevocationList
import DeviceGateway.Certificate.Subject
import DeviceGateway.Certificate.Summary
import DeviceGateway.Certificate.Timestamp
import DeviceGateway.Certificate.Validity
import DeviceGateway.CommandLine.Basic
import DeviceGateway.CommandLine.Level
import DeviceGateway.CommandLine.Parameter
import DeviceGateway.CommandLine.Reader
import DeviceGateway.CommandLine.Reply
import DeviceGateway.Config.Basic
import DeviceGateway.Config.Document
import DeviceGateway.Config.Environment
import DeviceGateway.Config.Layered
import DeviceGateway.Credential
import DeviceGateway.Der.Element
import DeviceGateway.Duration
import DeviceGateway.Error
import DeviceGateway.Files
import DeviceGateway.Gateway
import DeviceGateway.Handshake.Context
import DeviceGateway.Handshake.Machine
import DeviceGateway.Handshake.Scripted
import DeviceGateway.Handshake.Verifier
import DeviceGateway.Http.Exchange
import DeviceGateway.Http.Scripted
import DeviceGateway.Http.Status
import DeviceGateway.Issuance.Issued
import DeviceGateway.Issuance.Issuer
import DeviceGateway.Issuance.Template
import DeviceGateway.Json.Access
import DeviceGateway.Json.Document
import DeviceGateway.Json.Line
import DeviceGateway.Json.Problem
import DeviceGateway.Json.Record
import DeviceGateway.Json.Skip
import DeviceGateway.Json.Token
import DeviceGateway.Json.Value
import DeviceGateway.Log
import DeviceGateway.Log.Filter
import DeviceGateway.Log.Line
import DeviceGateway.Main
import DeviceGateway.Material.Load
import DeviceGateway.Number.Binary64
import DeviceGateway.Number.DecimalText
import DeviceGateway.Pem.Block
import DeviceGateway.Pem.Body
import DeviceGateway.Pem.Section
import DeviceGateway.Policy
import DeviceGateway.Program.Certificates
import DeviceGateway.Program.Run
import DeviceGateway.Program.Serving
import DeviceGateway.Proofs.Authority.Allowlist
import DeviceGateway.Proofs.Authority.CallResult
import DeviceGateway.Proofs.Authority.Permits
import DeviceGateway.Proofs.Config.DurationText
import DeviceGateway.Proofs.Handshake.Agreement
import DeviceGateway.Proofs.Handshake.Consultation
import DeviceGateway.Proofs.Handshake.Decision
import DeviceGateway.Proofs.Handshake.NamedModule
import DeviceGateway.Proofs.Handshake.Parking
import DeviceGateway.Proofs.Handshake.Progress
import DeviceGateway.Proofs.Handshake.Provenance
import DeviceGateway.Proofs.Transport.Acceptance
import DeviceGateway.Proofs.Transport.Granted
import DeviceGateway.Proofs.Transport.Handover
import DeviceGateway.Proofs.Transport.Isolation
import DeviceGateway.Proofs.Transport.Overlap
import DeviceGateway.Proofs.Transport.Refusal
import DeviceGateway.Shape.Fault
import DeviceGateway.Shape.Tree
import DeviceGateway.Signature.Curve
import DeviceGateway.Signature.Edwards
import DeviceGateway.Signature.Key
import DeviceGateway.Signature.KeyReader
import DeviceGateway.Signature.Modular
import DeviceGateway.Signature.Rsa
import DeviceGateway.Text.Blank
import DeviceGateway.Text.LetterCase
import DeviceGateway.Text.Numeral
import DeviceGateway.Text.Quoted
import DeviceGateway.Text.Split
import DeviceGateway.Time.Calendar
import DeviceGateway.Time.Instant
import DeviceGateway.Transport.Client
import DeviceGateway.Transport.Connection
import DeviceGateway.Transport.Hello
import DeviceGateway.Transport.Listener
import DeviceGateway.Transport.Settings
import DeviceGateway.Url.Address
import DeviceGateway.Url.Host
import DeviceGateway.Url.PercentCoding
import DeviceGateway.Url.Reference
import DeviceGateway.Yaml.CoreSchema
import DeviceGateway.Yaml.Cursor
import DeviceGateway.Yaml.Document
import DeviceGateway.Yaml.Node
import DeviceGateway.Yaml.Scalar
import DeviceGateway.Proofs.Config.Reload
import DeviceGateway.Proofs.Transport.Startup
import DeviceGateway.Proofs.Material.Bundle
import DeviceGateway.Proofs.Authority.Posted
import DeviceGateway.Proofs.Certificate.Timestamps
import DeviceGateway.Proofs.Time.Calendar
import DeviceGateway.Proofs.Certificate.Written
import DeviceGateway.Proofs.Issuance.Device
import DeviceGateway.Proofs.Handshake.Provisioned
import DeviceGateway.Proofs.Authority.Verdict
import DeviceGateway.Proofs.Certificate.Claimed
import DeviceGateway.Proofs.Config.Layers
import DeviceGateway.Proofs.Config.Precedence
import DeviceGateway.Proofs.Config.Settings
import DeviceGateway.Proofs.Config.VariableNames
import DeviceGateway.Proofs.Issuance.Names
import DeviceGateway.Proofs.Shape.Overlay
import DeviceGateway.Proofs.Authority.Growth
import DeviceGateway.Proofs.Handshake.Construction
import DeviceGateway.Proofs.Json.Skipped
import DeviceGateway.Proofs.Transport.Revocation
import DeviceGateway.Proofs.Json.RecordText
import DeviceGateway.Proofs.Authority.RemoteVerdict
import DeviceGateway.Proofs.Config.DurationGrammar
import DeviceGateway.Proofs.Files.Places
import DeviceGateway.Proofs.Files.Storing
import DeviceGateway.Proofs.Issuance.Delivery
import DeviceGateway.Proofs.Issuance.Commands
import DeviceGateway.Proofs.CommandLine.Defaults
import DeviceGateway.Proofs.Issuance.Stems
import DeviceGateway.Proofs.Handshake.Walk
import DeviceGateway.Proofs.Issuance.Lifetime
