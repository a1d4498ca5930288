import RouteTemplate.Schema.Model
import RouteTemplate.Http.Client
import RouteTemplate.Main
import RouteTemplate.Proofs.Template.Injection
import RouteTemplate.Proofs.Request.FixedUrl
import RouteTemplate.Proofs.Standard.Refinement
import RouteTemplate.Proofs.Template.Spelling
import RouteTemplate.Proofs.Template.Concatenation
import RouteTemplate.Proofs.Template.Dependency
import RouteTemplate.Proofs.Request.Chain
import RouteTemplate.Proofs.Request.Failure
import RouteTemplate.Proofs.CommandLine.Typed
import RouteTemplate.Proofs.Http.Interception
import RouteTemplate.Proofs.Http.Session
import RouteTemplate.Proofs.Schema.Parameter
import RouteTemplate.Proofs.Template.Refusal
import RouteTemplate.Proofs.Template.Undefined
import RouteTemplate.Proofs.Percent.Decoding
import RouteTemplate.Proofs.Percent.Fields
import RouteTemplate.Proofs.Template.Pairs
import RouteTemplate.Proofs.Standard.Query
import RouteTemplate.Proofs.Template.Respelling
import RouteTemplate.Proofs.Template.SingleText
import RouteTemplate.Proofs.Decimal.Digits
import RouteTemplate.Proofs.Template.Position
import RouteTemplate.Proofs.Decimal.Numeral
import RouteTemplate.Proofs.Json.Reader
import RouteTemplate.Proofs.Json.RoundTrip
import RouteTemplate.Proofs.CommandLine.Document
import RouteTemplate.Proofs.Schema.Acceptance
import RouteTemplate.Proofs.Request.Agreement
import RouteTemplate.Proofs.Schema.Stability
import RouteTemplate.Proofs.Settings.Loading
import RouteTemplate.Proofs.Template.Continuation
