import AccessBroker.Address.Basic
import AccessBroker.Address.Endpoint
import AccessBroker.Address.V4
import AccessBroker.Address.V6
import AccessBroker.Broker.Basic
import AccessBroker.Broker.Routes
import AccessBroker.Calendar.Date
import AccessBroker.Calendar.Fields
import AccessBroker.Calendar.Format
import AccessBroker.Calendar.Reading
import AccessBroker.Cipher.Aes
import AccessBroker.Cipher.Chaining
import AccessBroker.Cipher.KeyDerivation
import AccessBroker.Cipher.Sha256
import AccessBroker.CommandLine.Arguments
import AccessBroker.CommandLine.Run
import AccessBroker.Config.Basic
import AccessBroker.Config.Fault
import AccessBroker.Config.Layers
import AccessBroker.Config.Load
import AccessBroker.Config.Reading
import AccessBroker.Config.Validation
import AccessBroker.Cookie.Jar
import AccessBroker.Cookie.Settings
import AccessBroker.Credential.AccessCookie
import AccessBroker.Credential.External
import AccessBroker.Credential.Fault
import AccessBroker.Datum.Basic
import AccessBroker.Datum.Cause
import AccessBroker.Datum.Overlay
import AccessBroker.Datum.Record
import AccessBroker.Decimal.Binary64
import AccessBroker.Decimal.Reading
import AccessBroker.DegradedAccess
import AccessBroker.Encoding.Base64
import AccessBroker.Encoding.Hex
import AccessBroker.Environment.Basic
import AccessBroker.Environment.Settings
import AccessBroker.Environment.Value
import AccessBroker.Http.Query
import AccessBroker.Http.Request
import AccessBroker.Http.Response
import AccessBroker.Http.Target
import AccessBroker.Idna.CharacterTable
import AccessBroker.Idna.Composition
import AccessBroker.Idna.Domain
import AccessBroker.Idna.MappingTable
import AccessBroker.Idna.Punycode
import AccessBroker.Idna.Table
import AccessBroker.Item
import AccessBroker.Json.Basic
import AccessBroker.Json.Quoted
import AccessBroker.Json.Record
import AccessBroker.Json.Token
import AccessBroker.Json.Tree
import AccessBroker.Json.Value
import AccessBroker.Main
import AccessBroker.Network.Block
import AccessBroker.Network.Classifier
import AccessBroker.Network.Trie
import AccessBroker.Page.Basic
import AccessBroker.Page.Markup
import AccessBroker.Proofs.Address.Basic
import AccessBroker.Proofs.Address.Dotted
import AccessBroker.Proofs.Address.Endpoint
import AccessBroker.Proofs.Address.Literal
import AccessBroker.Proofs.Address.V4
import AccessBroker.Proofs.Address.V6
import AccessBroker.Proofs.Broker.Basic
import AccessBroker.Proofs.Broker.Cookies
import AccessBroker.Proofs.Broker.Items
import AccessBroker.Proofs.Broker.Listening
import AccessBroker.Proofs.Broker.Origins
import AccessBroker.Proofs.Broker.Parameters
import AccessBroker.Proofs.Broker.Presented
import AccessBroker.Proofs.Broker.Routes
import AccessBroker.Proofs.Broker.Secrets
import AccessBroker.Proofs.Broker.Start
import AccessBroker.Proofs.Calendar.Date
import AccessBroker.Proofs.Calendar.Reading
import AccessBroker.Proofs.Cipher.Aes
import AccessBroker.Proofs.Cipher.Chaining
import AccessBroker.Proofs.CommandLine.Agreement
import AccessBroker.Proofs.CommandLine.Effective
import AccessBroker.Proofs.CommandLine.Secrets
import AccessBroker.Proofs.Config.Layered
import AccessBroker.Proofs.Config.Load
import AccessBroker.Proofs.Config.Secrets
import AccessBroker.Proofs.Config.Settings
import AccessBroker.Proofs.Config.Subnets
import AccessBroker.Proofs.Config.Validation
import AccessBroker.Proofs.Config.Variable
import AccessBroker.Proofs.Config.Written
import AccessBroker.Proofs.Cookie.Jar
import AccessBroker.Proofs.Cookie.Presented
import AccessBroker.Proofs.Credential.Acceptance
import AccessBroker.Proofs.Credential.AccessCookie
import AccessBroker.Proofs.Credential.External
import AccessBroker.Proofs.Credential.Facts
import AccessBroker.Proofs.Credential.Stages
import AccessBroker.Proofs.Credential.Tampering
import AccessBroker.Proofs.Datum.Alike
import AccessBroker.Proofs.Datum.Keyed
import AccessBroker.Proofs.Datum.Parallel
import AccessBroker.Proofs.Datum.Record
import AccessBroker.Proofs.Datum.Written
import AccessBroker.Proofs.Encoding.Base64
import AccessBroker.Proofs.Encoding.Hex
import AccessBroker.Proofs.Environment.Basic
import AccessBroker.Proofs.Environment.Settings
import AccessBroker.Proofs.Environment.Value
import AccessBroker.Proofs.Http.Target
import AccessBroker.Proofs.Idna.Domain
import AccessBroker.Proofs.Json.Layout
import AccessBroker.Proofs.Json.Quoted
import AccessBroker.Proofs.Json.Record
import AccessBroker.Proofs.Json.Shape
import AccessBroker.Proofs.Json.Token
import AccessBroker.Proofs.Json.Tree
import AccessBroker.Proofs.Network.Block
import AccessBroker.Proofs.Network.Checked
import AccessBroker.Proofs.Network.Classifier
import AccessBroker.Proofs.Network.Shape
import AccessBroker.Proofs.Network.Spelling
import AccessBroker.Proofs.Network.Trie
import AccessBroker.Proofs.Page.Script
import AccessBroker.Proofs.Page.Template
import AccessBroker.Proofs.Parallel
import AccessBroker.Proofs.Refusal
import AccessBroker.Proofs.Store.Entrywise
import AccessBroker.Proofs.Store.Ordered
import AccessBroker.Proofs.Store.Seeding
import AccessBroker.Proofs.Store.Table
import AccessBroker.Proofs.Store.Uses
import AccessBroker.Proofs.Text.Blank
import AccessBroker.Proofs.Text.Number
import AccessBroker.Proofs.Text.Numeral
import AccessBroker.Proofs.Text.Percent
import AccessBroker.Proofs.Text.Split
import AccessBroker.Proofs.Text.Utf8
import AccessBroker.Proofs.Token.Basic
import AccessBroker.Proofs.Token.Flow
import AccessBroker.Proofs.Token.Result
import AccessBroker.Proofs.Url.Authority
import AccessBroker.Proofs.Url.Host
import AccessBroker.Proofs.Url.Key
import AccessBroker.Proofs.Url.Origin
import AccessBroker.Proofs.Url.Text
import AccessBroker.Proofs.Yaml.Value
import AccessBroker.Store.Answer
import AccessBroker.Store.Ordered
import AccessBroker.Store.Table
import AccessBroker.Text.Blank
import AccessBroker.Text.Debug
import AccessBroker.Text.Hidden
import AccessBroker.Text.Number
import AccessBroker.Text.Percent
import AccessBroker.Text.Utf8
import AccessBroker.Token.Basic
import AccessBroker.Token.Client
import AccessBroker.Token.Exchange
import AccessBroker.Token.Flow
import AccessBroker.Token.Result
import AccessBroker.Url.Basic
import AccessBroker.Url.Host
import AccessBroker.Url.Path
import AccessBroker.Yaml.Block
import AccessBroker.Yaml.Cursor
import AccessBroker.Yaml.Gap
import AccessBroker.Yaml.Node
import AccessBroker.Yaml.Plain
import AccessBroker.Yaml.Quoted
import AccessBroker.Yaml.Token
import AccessBroker.Yaml.Value
