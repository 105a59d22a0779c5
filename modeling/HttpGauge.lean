import HttpGauge.Client
import HttpGauge.Extractor
import HttpGauge.Failure
import HttpGauge.Header
import HttpGauge.Json.Bytes
import HttpGauge.Json.Display
import HttpGauge.Json.Misreading
import HttpGauge.Json.Reader
import HttpGauge.Json.Value
import HttpGauge.Json.Writer
import HttpGauge.Log
import HttpGauge.Log.Format
import HttpGauge.Log.Registry
import HttpGauge.Manifest.Field
import HttpGauge.Manifest.Metric
import HttpGauge.Manifest.Problem
import HttpGauge.Measurement
import HttpGauge.Metric
import HttpGauge.Number.Arithmetic
import HttpGauge.Number.Binary64
import HttpGauge.Number.Notation
import HttpGauge.Number.Numeral
import HttpGauge.Number.Rounding
import HttpGauge.Number.Shortest
import HttpGauge.Path.Arithmetic
import HttpGauge.Path.Evaluation
import HttpGauge.Path.Language
import HttpGauge.Path.Node
import HttpGauge.Path.Ordering
import HttpGauge.Path.Parser
import HttpGauge.Path.Query
import HttpGauge.Path.Template
import HttpGauge.Path.Token
import HttpGauge.Proofs.Authorization
import HttpGauge.Proofs.Course
import HttpGauge.Proofs.Credentials
import HttpGauge.Proofs.DeclaredHeaders
import HttpGauge.Proofs.Effects
import HttpGauge.Proofs.Environment
import HttpGauge.Proofs.Headers
import HttpGauge.Proofs.History
import HttpGauge.Proofs.Json.Bytes
import HttpGauge.Proofs.Json.Finiteness
import HttpGauge.Proofs.Json.Grammar
import HttpGauge.Proofs.Json.ReadIntegers
import HttpGauge.Proofs.Json.Reading
import HttpGauge.Proofs.Json.Recognition
import HttpGauge.Proofs.Json.Tokens
import HttpGauge.Proofs.Json.Writing
import HttpGauge.Proofs.Json.WrittenNumbers
import HttpGauge.Proofs.JsonBody
import HttpGauge.Proofs.KeyStyles
import HttpGauge.Proofs.LabelledBodies
import HttpGauge.Proofs.Log.Ancestors
import HttpGauge.Proofs.LogHandlers
import HttpGauge.Proofs.LogLevels
import HttpGauge.Proofs.Manifest.Variations
import HttpGauge.Proofs.MeasuredText
import HttpGauge.Proofs.MeasuredValue
import HttpGauge.Proofs.MetricRoles
import HttpGauge.Proofs.Number.Decimal
import HttpGauge.Proofs.Number.Digits
import HttpGauge.Proofs.Number.Numeral
import HttpGauge.Proofs.Number.Rounding
import HttpGauge.Proofs.Number.SettingNumerals
import HttpGauge.Proofs.Path.Composition
import HttpGauge.Proofs.Path.Quotes
import HttpGauge.Proofs.Path.Spellings
import HttpGauge.Proofs.Path.Splitting
import HttpGauge.Proofs.Phases
import HttpGauge.Proofs.RawBodies
import HttpGauge.Proofs.Secrets
import HttpGauge.Proofs.SendFailures
import HttpGauge.Proofs.Sending
import HttpGauge.Proofs.Stages
import HttpGauge.Proofs.Text.Base64
import HttpGauge.Proofs.Text.Casing
import HttpGauge.Proofs.Text.FormEncoding
import HttpGauge.Proofs.Text.Utf8
import HttpGauge.Proofs.TokenAnswers
import HttpGauge.Proofs.TokenCache
import HttpGauge.Proofs.TokenCalls
import HttpGauge.Proofs.TokenLifetime
import HttpGauge.Proofs.Wording
import HttpGauge.Proofs.WrittenValues
import HttpGauge.Provider
import HttpGauge.Request
import HttpGauge.Response
import HttpGauge.Settings
import HttpGauge.Text.Base64
import HttpGauge.Text.Blank
import HttpGauge.Text.CaseTable
import HttpGauge.Text.Casing
import HttpGauge.Text.CodeRange
import HttpGauge.Text.DecimalDigit
import HttpGauge.Text.Decoding
import HttpGauge.Text.FormEncoding
import HttpGauge.Text.HexDigit
import HttpGauge.Text.Pieces
import HttpGauge.Text.Printable
import HttpGauge.Text.Quoted
import HttpGauge.Text.Utf8
import HttpGauge.Text.WideUnits
import HttpGauge.Token
import HttpGauge.Trace
import HttpGauge.Verdict
