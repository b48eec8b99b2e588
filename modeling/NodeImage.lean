import NodeImage.Bake.Baker
import NodeImage.Bake.Events
import NodeImage.Bake.Setup
import NodeImage.Bootstrap.Scripts
import NodeImage.Bundle
import NodeImage.Catalog.Model
import NodeImage.Catalog.Store
import NodeImage.Cloud
import NodeImage.Data.Json
import NodeImage.Data.Value
import NodeImage.Fault
import NodeImage.Files.Path
import NodeImage.Files.Tree
import NodeImage.Host
import NodeImage.Image.Distro
import NodeImage.Image.Model
import NodeImage.Number.Double
import NodeImage.Proofs.Bake.Bootstrap
import NodeImage.Proofs.Bake.DistroCatalog
import NodeImage.Proofs.Bake.Reporting
import NodeImage.Proofs.Bake.Resolution
import NodeImage.Proofs.Bake.Yields
import NodeImage.Proofs.Catalog.Environment
import NodeImage.Proofs.Catalog.Binding
import NodeImage.Proofs.Vhd.WriteOnce
import NodeImage.Proofs.Toggle.Evaluation
import NodeImage.Proofs.Data.Entries
import NodeImage.Proofs.Vhd.Indexing
import NodeImage.Proofs.Loading.Failures
import NodeImage.Proofs.Text.Codecs
import NodeImage.Proofs.Bootstrap.CustomData
import NodeImage.Proofs.Image.Gallery
import NodeImage.Proofs.Settings.Paths
import NodeImage.Schema.Check
import NodeImage.Service.Answer
import NodeImage.Service.BakeOps
import NodeImage.Service.BakerOps
import NodeImage.Service.CatalogOps
import NodeImage.Service.Forms
import NodeImage.Service.RenderOps
import NodeImage.Service.Request
import NodeImage.Service.Run
import NodeImage.Service.Sandbox
import NodeImage.Service.SettingsOps
import NodeImage.Service.ToggleOps
import NodeImage.Service.VhdOps
import NodeImage.Settings.Load
import NodeImage.Settings.Model
import NodeImage.Template.Access
import NodeImage.Template.Arith
import NodeImage.Template.Binding
import NodeImage.Template.Compare
import NodeImage.Template.Compile
import NodeImage.Template.Eval
import NodeImage.Template.Failure
import NodeImage.Template.Filters
import NodeImage.Template.Format
import NodeImage.Template.Json
import NodeImage.Template.Lexer
import NodeImage.Template.Library
import NodeImage.Template.Methods
import NodeImage.Template.Parser
import NodeImage.Template.Show
import NodeImage.Template.Sorting
import NodeImage.Template.Syntax
import NodeImage.Template.Tests
import NodeImage.Template.Token
import NodeImage.Template.Value
import NodeImage.Text.Base64
import NodeImage.Text.Case
import NodeImage.Text.FloatText
import NodeImage.Text.Html
import NodeImage.Text.Numeral
import NodeImage.Text.Quote
import NodeImage.Text.Search
import NodeImage.Text.Url
import NodeImage.Text.Urlize
import NodeImage.Text.Utf8
import NodeImage.Text.Wrap
import NodeImage.Toggle.Load
import NodeImage.Toggle.Rules
import NodeImage.Unicode.Casing
import NodeImage.Unicode.Character
import NodeImage.Unicode.Names
import NodeImage.Unicode.Naming
import NodeImage.Unicode.Properties
import NodeImage.Unicode.Ranges
import NodeImage.Unicode.Surrogate
import NodeImage.Vhd.Inventory
import NodeImage.Yaml.Compose
import NodeImage.Yaml.Construct
import NodeImage.Yaml.Resolve
import NodeImage.Yaml.Scanner
import NodeImage.Yaml.Token
