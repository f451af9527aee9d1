import GeoFilter.Text.Blank
import GeoFilter.Text.Letter
import GeoFilter.Text.Numeral
import GeoFilter.Text.Lowercase
import GeoFilter.Text.Quoted
import GeoFilter.Text.Percent
import GeoFilter.Text.Lines
import GeoFilter.Number.Reading
import GeoFilter.Number.Layout
import GeoFilter.Number.Hypotenuse
import GeoFilter.NameTable
import GeoFilter.Geometry.Measure
import GeoFilter.Filter
import GeoFilter.Diagnostic
import GeoFilter.Dialect
import GeoFilter.Token.Stream
import GeoFilter.Token.Scanner
import GeoFilter.Grammar
import GeoFilter.Writing
import GeoFilter.Dialect.Loading
import GeoFilter.GeometryProcess
import GeoFilter.GeometryProcess.Registry
import GeoFilter.Request
import GeoFilter.Outline.Shown
import GeoFilter.Outline.Json
import GeoFilter.Outline.Token
import GeoFilter.Diagnostic.Excerpt
import GeoFilter.CommandLine
import GeoFilter.Main
import GeoFilter.Proofs.Number.Binary64
import GeoFilter.Proofs.Number.Rounding
import GeoFilter.Proofs.Number.Scientific
import GeoFilter.Proofs.Number.Overflow
import GeoFilter.Proofs.Number.Decimal
import GeoFilter.Proofs.Number.Shortest
import GeoFilter.Proofs.Number.Numeral
import GeoFilter.Proofs.Number.Integer
import GeoFilter.Proofs.Token.Lexeme
import GeoFilter.Proofs.Token.Number
import GeoFilter.Proofs.Token.Stream
import GeoFilter.Proofs.Token.Tiling
import GeoFilter.Proofs.Diagnostic.Message
import GeoFilter.Proofs.Diagnostic.Fault
import GeoFilter.Proofs.Nodes
import GeoFilter.Proofs.Resolved
import GeoFilter.Proofs.Ordinates
import GeoFilter.Proofs.Grammar.Yield
import GeoFilter.Proofs.Grammar.Check
import GeoFilter.Proofs.Grammar.Accepted
import GeoFilter.Proofs.Parsing
import GeoFilter.Proofs.LikePattern
import GeoFilter.Proofs.Token.Spelling
import GeoFilter.Proofs.Token.Grammar
import GeoFilter.Proofs.Token.Longest
import GeoFilter.Proofs.Writing
import GeoFilter.Proofs.Grammar.Reading
import GeoFilter.Proofs.Grammar.ReadingGeometry
import GeoFilter.Proofs.Grammar.ReadingExpression
import GeoFilter.Proofs.Grammar.ReadingFilter
import GeoFilter.Proofs.RoundTrip
import GeoFilter.Proofs.Numbers
import GeoFilter.Proofs.Translation
import GeoFilter.Proofs.Grammar.Course
import GeoFilter.Proofs.Grammar.Height
import GeoFilter.Proofs.Grammar.Summit
import GeoFilter.Proofs.Heights
import GeoFilter.Proofs.Grammar.Cutoff
import GeoFilter.Proofs.DepthLimit
import GeoFilter.Proofs.Token.Respacing
import GeoFilter.Proofs.Kinds
import GeoFilter.Proofs.Text.Percent
import GeoFilter.Proofs.QueryString
import GeoFilter.Proofs.NameTable
import GeoFilter.Proofs.Registration
import GeoFilter.Proofs.Screening
import GeoFilter.Proofs.Token.Joining
import GeoFilter.Proofs.Grammar.Sufficient
import GeoFilter.Proofs.Grammar.Embedding
import GeoFilter.Proofs.Grammar.EmbeddingExpression
import GeoFilter.Proofs.Grammar.EmbeddingFilter
import GeoFilter.Proofs.Grammar.Inversion
import GeoFilter.Proofs.Grammar.Composition
import GeoFilter.Proofs.Conjunction
import GeoFilter.Proofs.Enclosing
import GeoFilter.Proofs.Precedence
import GeoFilter.Proofs.Grammar.Derivation
import GeoFilter.Proofs.Grammar.Surplus
import GeoFilter.Proofs.Quoting
import GeoFilter.Proofs.Parentheses
import GeoFilter.Proofs.Negation
import GeoFilter.Proofs.Token.Balance
import GeoFilter.Proofs.Grammar.Balance
import GeoFilter.Proofs.Unclosed
import GeoFilter.Proofs.Grammar.Ending
import GeoFilter.Proofs.EndOfInput
import GeoFilter.Proofs.Token.Scanner
import GeoFilter.Proofs.Number.Order
import GeoFilter.Proofs.Bounds
import GeoFilter.Proofs.Toml.Keys
import GeoFilter.Proofs.Text.Lowercase
import GeoFilter.Proofs.FunctionTable
import GeoFilter.Proofs.Text.Lines
import GeoFilter.Proofs.Caret
import GeoFilter.Proofs.Diagnostic.Fitness
import GeoFilter.Proofs.ServiceRequest
import GeoFilter.Proofs.DepthCounter
import GeoFilter.Proofs.IntegerLiterals
import GeoFilter.Proofs.NumberConversion
