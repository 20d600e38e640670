import Deployment.Archetype
import Deployment.Assembly
import Deployment.Binary64.Basic
import Deployment.Binary64.Layout
import Deployment.Binary64.Reading
import Deployment.Binary64.Shortest
import Deployment.Bindings
import Deployment.CommandLine
import Deployment.CommandLine.Arguments
import Deployment.Compilation
import Deployment.CompileError
import Deployment.DatabaseEngine
import Deployment.Deploy
import Deployment.Descriptor
import Deployment.Document
import Deployment.Environment
import Deployment.Hostname
import Deployment.Hostname.Fragment
import Deployment.Instant
import Deployment.Instant.Calendar
import Deployment.Instant.Reading
import Deployment.Instant.Writing
import Deployment.Json.Basic
import Deployment.Json.Decode
import Deployment.Json.Fault
import Deployment.Json.Numeral
import Deployment.Json.Quoted
import Deployment.Json.Reading
import Deployment.Json.Writing
import Deployment.Main
import Deployment.Manifest.Reading
import Deployment.Manifest.Service
import Deployment.Manifest.Writing
import Deployment.NameSet
import Deployment.Registry
import Deployment.Request
import Deployment.RequestId
import Deployment.ResourceTier
import Deployment.Route
import Deployment.Secret
import Deployment.Service
import Deployment.Settings
import Deployment.Template
import Deployment.Template.Rendering
import Deployment.Template.Resolution
import Deployment.Template.Token
import Deployment.Template.Variable
import Deployment.TemplateStore
import Deployment.Text.Ascii
import Deployment.Text.Blank
import Deployment.Text.CharSet
import Deployment.Text.Lowercase
import Deployment.Text.Lowercase.Table
import Deployment.Text.Natural
import Deployment.Text.Printable.Table
import Deployment.Text.Quoted
import Deployment.Text.Split
import Deployment.Text.Word
import Deployment.Text.Word.Table
import Deployment.TextMap
import Deployment.Validation
import Deployment.Value.Basic
import Deployment.Value.Entries
import Deployment.Value.Number
import Deployment.Violation
import Deployment.Volume
import Deployment.Wire.Descriptor
import Deployment.Wire.Request
import Deployment.Wire.Service
import Deployment.Wire.Template
import Deployment.Wire.Value
import Deployment.Wizard
import Deployment.Yaml.Barrier
import Deployment.Yaml.Cursor
import Deployment.Yaml.Document
import Deployment.Yaml.Event
import Deployment.Yaml.Event.Stream
import Deployment.Yaml.Fault
import Deployment.Yaml.Mark
import Deployment.Yaml.Outline
import Deployment.Yaml.Reading
import Deployment.Yaml.Scalar
import Deployment.Yaml.Style
import Deployment.Yaml.Tag
import Deployment.Yaml.Token
import Deployment.Yaml.Token.Block
import Deployment.Yaml.Token.Folding
import Deployment.Yaml.Token.Plain
import Deployment.Yaml.Token.Property
import Deployment.Yaml.Token.Quoted
import Deployment.Yaml.Token.Stream
import Deployment.Yaml.Writing
import Deployment.Proofs.Hostname.Grammar
import Deployment.Proofs.Hostname.Fragment
import Deployment.Proofs.Route
import Deployment.Proofs.Assembly.Deployable
import Deployment.Proofs.Assembly.Soundness
import Deployment.Proofs.Assembly.FirstViolation
import Deployment.Proofs.Manifest.Reading
import Deployment.Proofs.Manifest.Acceptance
import Deployment.Proofs.Entries
import Deployment.Proofs.Manifest.Normal
import Deployment.Proofs.Wizard
import Deployment.Proofs.Manifest.RoundTrip
import Deployment.Proofs.Document
import Deployment.Proofs.Value.Shape
import Deployment.Proofs.Template.Filling
import Deployment.Proofs.Assembly.Order
import Deployment.Proofs.Wizard.Deployable
import Deployment.Proofs.Concealment
import Deployment.Proofs.Manifest.Concealment
import Deployment.Proofs.Assembly.Concealment
import Deployment.Proofs.Wizard.Drawing
import Deployment.Proofs.Wizard.Concealment
import Deployment.Proofs.Wizard.Credentials
import Deployment.Proofs.Wizard.Wiring
import Deployment.Proofs.Assembly.HostNames
import Deployment.Proofs.Manifest.Kept
import Deployment.Proofs.Hostname.Lowercase
import Deployment.Proofs.Hostname.Canonical
import Deployment.Proofs.Template.Resolution
import Deployment.Proofs.Template.Scope
import Deployment.Proofs.Template.Token
import Deployment.Proofs.Template.Empty
import Deployment.Proofs.Template.Unresolved
import Deployment.Proofs.Template.Parts
import Deployment.Proofs.Template.Mentioned
import Deployment.Proofs.Template.Payload
import Deployment.Proofs.Manifest.Fields
import Deployment.Proofs.Manifest.Environment
import Deployment.Proofs.Manifest.Service
import Deployment.Proofs.Manifest.Lists
import Deployment.Proofs.Manifest.Altered
import Deployment.Proofs.Manifest.Order
import Deployment.Proofs.Manifest.Respelled
import Deployment.Proofs.Assembly.Respelled
import Deployment.Proofs.Deploy
import Deployment.Proofs.Route.Stable
import Deployment.Proofs.Assembly.Endpoints
import Deployment.Proofs.Json.Decode
import Deployment.Proofs.Wire.Value
import Deployment.Proofs.Wire.RoundTrip
import Deployment.Proofs.Wire.Acceptance
import Deployment.Proofs.Hostname.Prefixing
import Deployment.Proofs.Text.Parts
import Deployment.Proofs.Text.Decimal
import Deployment.Proofs.Value.Number
import Deployment.Proofs.Manifest.Port
import Deployment.Proofs.Document.Calls
import Deployment.Proofs.Wizard.DatabaseName
