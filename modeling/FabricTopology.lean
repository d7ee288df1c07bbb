import FabricTopology.Api.Handler
import FabricTopology.Api.Route
import FabricTopology.Calendar
import FabricTopology.Canvas
import FabricTopology.CommandLine
import FabricTopology.CommandLine.Arguments
import FabricTopology.Compilation
import FabricTopology.Decimal
import FabricTopology.Deployment
import FabricTopology.Document.ChannelConfig
import FabricTopology.Document.CryptoMaterial
import FabricTopology.Document.Services
import FabricTopology.Json.Number
import FabricTopology.Json.Parser
import FabricTopology.Json.Printer
import FabricTopology.Json.Record
import FabricTopology.Json.Value
import FabricTopology.Log
import FabricTopology.Main
import FabricTopology.Naming
import FabricTopology.Network.Basic
import FabricTopology.Network.Codec
import FabricTopology.Network.Entities
import FabricTopology.PeerCommand
import FabricTopology.Proofs.Api.Effect
import FabricTopology.Proofs.Api.EntryPoints
import FabricTopology.Proofs.Api.Path
import FabricTopology.Proofs.Api.Run
import FabricTopology.Proofs.Api.SendBack
import FabricTopology.Proofs.Calendar
import FabricTopology.Proofs.Canvas.Derivation
import FabricTopology.Proofs.Canvas.Faults
import FabricTopology.Proofs.Canvas.Lint
import FabricTopology.Proofs.Canvas.Mirrored
import FabricTopology.Proofs.Canvas.Names
import FabricTopology.Proofs.Canvas.Neighbors
import FabricTopology.Proofs.Canvas.Recorded
import FabricTopology.Proofs.Canvas.Redrawing
import FabricTopology.Proofs.CommandLine
import FabricTopology.Proofs.Decimal
import FabricTopology.Proofs.Deployment.Lifecycle
import FabricTopology.Proofs.Deployment.Patch
import FabricTopology.Proofs.Document.Agreement
import FabricTopology.Proofs.Document.AnchorPeers
import FabricTopology.Proofs.Document.ChannelConfig
import FabricTopology.Proofs.Document.Completeness
import FabricTopology.Proofs.Document.Framing
import FabricTopology.Proofs.Document.Identifiers
import FabricTopology.Proofs.Document.Outline
import FabricTopology.Proofs.Document.Ports
import FabricTopology.Proofs.Document.Printable
import FabricTopology.Proofs.Document.References
import FabricTopology.Proofs.Document.Services
import FabricTopology.Proofs.Json.Length
import FabricTopology.Proofs.Json.Number
import FabricTopology.Proofs.Json.Rewording
import FabricTopology.Proofs.Json.Text
import FabricTopology.Proofs.Lists
import FabricTopology.Proofs.Naming
import FabricTopology.Proofs.Network.Codec
import FabricTopology.Proofs.Network.Defaults
import FabricTopology.Proofs.Network.Patch
import FabricTopology.Proofs.Network.Size
import FabricTopology.Proofs.PeerCommand
import FabricTopology.Proofs.RoundTrip
import FabricTopology.Proofs.Store.Interleaving
import FabricTopology.Proofs.Store.Records
import FabricTopology.Proofs.Store.Run
import FabricTopology.Proofs.Store.Step
import FabricTopology.Proofs.Table
import FabricTopology.Proofs.Template.Canvas
import FabricTopology.Proofs.Template.Seats
import FabricTopology.Proofs.Template.Shares
import FabricTopology.Proofs.Text.LowerCase
import FabricTopology.Proofs.Text.Numeral
import FabricTopology.Proofs.Text.Words
import FabricTopology.Proofs.Topology
import FabricTopology.Proofs.Validation.Codec
import FabricTopology.Proofs.Validation.Report
import FabricTopology.Proofs.Yaml.Dashes
import FabricTopology.Proofs.Yaml.Inline
import FabricTopology.Proofs.Yaml.Layout
import FabricTopology.Proofs.Yaml.Lines
import FabricTopology.Proofs.Yaml.Quoting
import FabricTopology.Proofs.Yaml.Resolution
import FabricTopology.Proofs.Yaml.Shown
import FabricTopology.Proofs.Yaml.Tags
import FabricTopology.Proofs.Yaml.Unambiguous
import FabricTopology.Proofs.Yaml.Undoing
import FabricTopology.Proofs.Yaml.Width
import FabricTopology.Store
import FabricTopology.Table
import FabricTopology.Template
import FabricTopology.Text.LowerCase
import FabricTopology.Text.Numeral
import FabricTopology.Text.Utf8
import FabricTopology.Text.Words
import FabricTopology.Topology
import FabricTopology.Validation
import FabricTopology.Yaml.Tree
import FabricTopology.Yaml.Writer
