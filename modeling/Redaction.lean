import Redaction.Batch
import Redaction.BodyFormat
import Redaction.ContentType.Basic
import Redaction.ContentType.EncodedWord
import Redaction.ContentType.Flaw
import Redaction.ContentType.Lexical
import Redaction.ContentType.Parameter
import Redaction.Encoding.Basic
import Redaction.Encoding.Codec
import Redaction.Encoding.Name
import Redaction.Encoding.SingleByte
import Redaction.Encoding.Utf8
import Redaction.Encoding.Wide
import Redaction.Endpoint
import Redaction.Environment
import Redaction.Json.Failure
import Redaction.Json.Node
import Redaction.Json.Parser
import Redaction.Json.Printer
import Redaction.Json.Redaction
import Redaction.Log
import Redaction.Number.Binary64
import Redaction.Number.Power
import Redaction.Number.Shortest
import Redaction.Number.Written
import Redaction.Options.Basic
import Redaction.Options.Folder
import Redaction.Options.Load
import Redaction.Payload
import Redaction.Raised
import Redaction.Span.Basic
import Redaction.Span.Labels
import Redaction.Span.Run
import Redaction.Span.Traced
import Redaction.Span.Tracing
import Redaction.Sql.Redaction
import Redaction.Sql.Token
import Redaction.Statement
import Redaction.Text.Alphanumeric
import Redaction.Text.Blank
import Redaction.Text.CaseRun
import Redaction.Text.CodePoint
import Redaction.Text.Cut
import Redaction.Text.Digit
import Redaction.Text.HexEscape
import Redaction.Text.Lower
import Redaction.Text.Order
import Redaction.Text.Printable
import Redaction.Text.Quoted
import Redaction.Text.Ranges
import Redaction.Text.Upper
import Redaction.Text.Words
import Redaction.Toml.Document
import Redaction.Toml.Lexical
import Redaction.Toml.Moment
import Redaction.Toml.Number
import Redaction.Value
import Redaction.Proofs.Json.Layout
import Redaction.Proofs.Json.Shape
import Redaction.Proofs.Json.Printed
import Redaction.Proofs.Json.Respaced
import Redaction.Proofs.Batch
import Redaction.Proofs.Split
import Redaction.Proofs.Request
import Redaction.Proofs.Sql.Literal
import Redaction.Proofs.Sql.Masked
import Redaction.Proofs.Sql.Partition
import Redaction.Proofs.Sql.Standalone
import Redaction.Proofs.Sql.Again
import Redaction.Proofs.Sql.Idempotent
import Redaction.Proofs.Span.Documented
import Redaction.Proofs.Span.Restored
import Redaction.Proofs.Span.Title
import Redaction.Proofs.Span.Entrance
import Redaction.Proofs.Span.Place
import Redaction.Proofs.Span.Performed
import Redaction.Proofs.Span.Tree
import Redaction.Proofs.Span.Crossing
import Redaction.Proofs.Header
import Redaction.Proofs.Json.Nesting
import Redaction.Proofs.Refusal
import Redaction.Proofs.Options
import Redaction.Proofs.CutOff
import Redaction.Proofs.Json.Accepted
import Redaction.Proofs.Sql.Cut
import Redaction.Proofs.Sql.Decoration
import Redaction.Proofs.Sql.Groups
import Redaction.Proofs.Limit
import Redaction.Proofs.Concatenation
import Redaction.Proofs.Document
import Redaction.Proofs.Endpoint
import Redaction.Proofs.Sql.Parameter
import Redaction.Proofs.Path
import Redaction.Proofs.Wording
import Redaction.Proofs.Captured
