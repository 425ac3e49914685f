import Parley.Charset
import Parley.Charset.Big5
import Parley.Charset.Big5.Left
import Parley.Charset.Big5.Right
import Parley.Charset.Gb
import Parley.Charset.Gb.Left
import Parley.Charset.Gb.Right
import Parley.Charset.Grid
import Parley.Charset.Jis
import Parley.Charset.Jis.Standard
import Parley.Charset.Jis.Supplement
import Parley.Charset.Ks
import Parley.Charset.Ks.Standard
import Parley.Charset.Rule
import Parley.Charset.SingleByte
import Parley.Charset.Utf16
import Parley.Chat.Generation
import Parley.Chat.Message
import Parley.Coding.Base64
import Parley.Coding.Checksum
import Parley.Coding.Gzip
import Parley.Coding.Inflate
import Parley.Coding.PrefixCode
import Parley.Coding.Source
import Parley.Config.Load
import Parley.Config.Placeholder
import Parley.Config.Secret
import Parley.Config.Settings
import Parley.Config.Validation
import Parley.Http.BodyText
import Parley.Http.EventStream
import Parley.Http.Exchange
import Parley.Http.Failure
import Parley.Http.MediaType
import Parley.Http.RequestId
import Parley.Http.Response
import Parley.Http.Status
import Parley.Json.Fault
import Parley.Json.Literal
import Parley.Json.Number
import Parley.Json.Reader
import Parley.Json.Skipped
import Parley.Json.Token
import Parley.Json.Value
import Parley.Json.Writer
import Parley.Log
import Parley.Numeric.Binary
import Parley.Numeric.Decimal
import Parley.Numeric.Notation
import Parley.Numeric.Shortest
import Parley.Numeric.Width
import Parley.Provider.Content
import Parley.Provider.Failure
import Parley.Provider.Parameters
import Parley.Retry.Jitter
import Parley.Retry.Policy
import Parley.Schema.Document
import Parley.Schema.Reader
import Parley.Schema.Record
import Parley.Schema.Refusal
import Parley.Session.Cancellation
import Parley.Session.Client
import Parley.Session.Program
import Parley.Session.Relay
import Parley.Session.Retrying
import Parley.Simulation.Script
import Parley.Simulation.Server
import Parley.Text.Blank
import Parley.Text.CodePoints
import Parley.Text.Composition
import Parley.Text.Mark
import Parley.Text.Numeral
import Parley.Text.Parts
import Parley.Text.Shown
import Parley.Text.Unshown
import Parley.Text.Utf8
import Parley.Time.Duration
import Parley.Url.Address
import Parley.Url.Domain
import Parley.Url.Domain.Direction
import Parley.Url.Domain.Joiner
import Parley.Url.Domain.Mapping
import Parley.Url.Domain.Punycode
import Parley.Url.Host
import Parley.Url.Percent
import Parley.Wire.Envelope
import Parley.Wire.Request
import Parley.Yaml.Document
import Parley.Yaml.Fault
import Parley.Yaml.Lexer
import Parley.Yaml.Node
import Parley.Yaml.Scalar
import Parley.Yaml.Token
import Parley.Proofs.Session.Surroundings
import Parley.Proofs.Session.RetryContract
import Parley.Proofs.Session.RelayContract
import Parley.Proofs.Session.Discipline
import Parley.Proofs.Session.CancellationSafety
import Parley.Proofs.Session.BatchComposition
import Parley.Proofs.Session.EmptyPrompt
import Parley.Proofs.Session.RetryRange
import Parley.Proofs.Session.ConcurrentCalls
import Parley.Proofs.Http.EventStream
import Parley.Proofs.Json.Writer
import Parley.Proofs.Session.EnvelopeInStream
import Parley.Proofs.Json.Literal
import Parley.Proofs.Provider.Content
import Parley.Proofs.Provider.Merge
import Parley.Proofs.Coding.Stored
import Parley.Proofs.Config.Placeholder
import Parley.Proofs.Config.Load
import Parley.Proofs.Json.Number
import Parley.Proofs.Numeric.Shortest
import Parley.Proofs.Numeric.Rounding
import Parley.Proofs.Json.Integer
import Parley.Proofs.Json.Value
import Parley.Proofs.Schema.Reader
import Parley.Proofs.Schema.Record
import Parley.Proofs.Formats
import Parley.Proofs.Json.Float
import Parley.Proofs.Config.Texts
import Parley.Proofs.Config.LeftPlaceholder
import Parley.Proofs.Session.AdmissibleRequests
import Parley.Proofs.Config.Insertion
import Parley.Proofs.Config.ExpandedText
import Parley.Proofs.Config.ExpandedReader
import Parley.Proofs.Config.ExpandedRecord
import Parley.Proofs.Config.InsertedValues
import Parley.Proofs.Config.Interpolation
import Parley.Proofs.Text.Parts
import Parley.Proofs.Http.EventWriter
import Parley.Proofs.Session.StreamedFragments
import Parley.Proofs.Json.Grammar
import Parley.Proofs.Json.Skipped
import Parley.Proofs.Json.LaidOut
import Parley.Proofs.Json.Measured
import Parley.Proofs.Schema.Spelling
import Parley.Proofs.Schema.Arrangement
import Parley.Proofs.Wire.EnvelopeText
import Parley.Proofs.Schema.Strictness
import Parley.Proofs.Schema.Surplus
import Parley.Proofs.Config.InertText
import Parley.Proofs.Config.SpelledSettings
import Parley.Proofs.Config.SavedSettings
import Parley.Proofs.Yaml.Printable
import Parley.Proofs.Yaml.Scalars
import Parley.Proofs.Yaml.Standing
import Parley.Proofs.Yaml.FlowTokens
import Parley.Proofs.Yaml.Portable
import Parley.Proofs.Yaml.FlowNodes
import Parley.Proofs.Yaml.Numbers
import Parley.Proofs.Schema.Node
import Parley.Proofs.Config.FormatsAgree
import Parley.Proofs.Text.Composition
import Parley.Proofs.Url.Mapping
import Parley.Proofs.Url.Host
import Parley.Proofs.Url.Path
import Parley.Proofs.Url.Authority
import Parley.Proofs.Url.Scheme
import Parley.Proofs.Url.Continued
import Parley.Proofs.Url.ReadBlank
import Parley.Proofs.Url.Extension
import Parley.Proofs.Http.EndpointAddress
import Parley.Proofs.Text.Ascii
import Parley.Proofs.Http.AnswerSize
import Parley.Proofs.Http.FailedStatus
import Parley.Proofs.Http.Response
import Parley.Proofs.Config.CheckedFields
import Parley.Proofs.Config.Redaction
import Parley.Proofs.Session.SingleConversation
import Parley.Proofs.Retry.SeededDelays
