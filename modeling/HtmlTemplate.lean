import HtmlTemplate.Command.Answer
import HtmlTemplate.Command.Arguments
import HtmlTemplate.Command.Assignment
import HtmlTemplate.Command.Files
import HtmlTemplate.Command.Help
import HtmlTemplate.Command.Render
import HtmlTemplate.Command.Run
import HtmlTemplate.Command.Test
import HtmlTemplate.Decimal.Binary64
import HtmlTemplate.Decimal.Numeral
import HtmlTemplate.Decimal.Printed
import HtmlTemplate.Decimal.Reading
import HtmlTemplate.Decimal.Rounding
import HtmlTemplate.Diagnostic.Place
import HtmlTemplate.Diagnostic.Snippet
import HtmlTemplate.Dictionary
import HtmlTemplate.Error
import HtmlTemplate.Fixture.Check
import HtmlTemplate.Fixture.Frontmatter
import HtmlTemplate.Fixture.Report
import HtmlTemplate.Fixture.Suite
import HtmlTemplate.Format.Apply
import HtmlTemplate.Format.Ascii
import HtmlTemplate.Format.Error
import HtmlTemplate.Format.Spec
import HtmlTemplate.Main
import HtmlTemplate.Markdown.CodeBlock
import HtmlTemplate.Markdown.HtmlBlock
import HtmlTemplate.Markdown.Line
import HtmlTemplate.Markdown.Marker
import HtmlTemplate.Markup.Dump
import HtmlTemplate.Markup.Escape
import HtmlTemplate.Markup.Node
import HtmlTemplate.Markup.Reference
import HtmlTemplate.Markup.Render
import HtmlTemplate.Markup.Tag
import HtmlTemplate.Markup.Token
import HtmlTemplate.Markup.Tokenizer
import HtmlTemplate.Proofs.Agreement
import HtmlTemplate.Proofs.Alternation
import HtmlTemplate.Proofs.Ascii
import HtmlTemplate.Proofs.AttributeRoutes
import HtmlTemplate.Proofs.Braces
import HtmlTemplate.Proofs.Bracketing
import HtmlTemplate.Proofs.Brackets
import HtmlTemplate.Proofs.Building
import HtmlTemplate.Proofs.CallSite
import HtmlTemplate.Proofs.Closing
import HtmlTemplate.Proofs.Collisions
import HtmlTemplate.Proofs.Delivery
import HtmlTemplate.Proofs.Dictionaries
import HtmlTemplate.Proofs.Documents
import HtmlTemplate.Proofs.DynamicTags
import HtmlTemplate.Proofs.Escapes
import HtmlTemplate.Proofs.Evaluations
import HtmlTemplate.Proofs.Filling
import HtmlTemplate.Proofs.FixedPoint
import HtmlTemplate.Proofs.Frontmatter
import HtmlTemplate.Proofs.Integers
import HtmlTemplate.Proofs.LineFeeds
import HtmlTemplate.Proofs.Literal
import HtmlTemplate.Proofs.LiteralSkeleton
import HtmlTemplate.Proofs.Markers
import HtmlTemplate.Proofs.MergedChunks
import HtmlTemplate.Proofs.NameMarkers
import HtmlTemplate.Proofs.Names
import HtmlTemplate.Proofs.Noninterference
import HtmlTemplate.Proofs.Numerals
import HtmlTemplate.Proofs.Outcomes
import HtmlTemplate.Proofs.Padding
import HtmlTemplate.Proofs.Parts
import HtmlTemplate.Proofs.Places
import HtmlTemplate.Proofs.PrintedSource
import HtmlTemplate.Proofs.RawText
import HtmlTemplate.Proofs.Readings
import HtmlTemplate.Proofs.ReferenceGrammar
import HtmlTemplate.Proofs.References
import HtmlTemplate.Proofs.Rendered
import HtmlTemplate.Proofs.RoundTrip
import HtmlTemplate.Proofs.Runs
import HtmlTemplate.Proofs.Scalars
import HtmlTemplate.Proofs.Segments
import HtmlTemplate.Proofs.ShownText
import HtmlTemplate.Proofs.Sites
import HtmlTemplate.Proofs.SmallLetters
import HtmlTemplate.Proofs.SoundTrees
import HtmlTemplate.Proofs.SourceFaults
import HtmlTemplate.Proofs.SourceText
import HtmlTemplate.Proofs.SourceTokens
import HtmlTemplate.Proofs.SourceTrees
import HtmlTemplate.Proofs.Spans
import HtmlTemplate.Proofs.Specifiers
import HtmlTemplate.Proofs.Spelling
import HtmlTemplate.Proofs.Suites
import HtmlTemplate.Proofs.TagForms
import HtmlTemplate.Proofs.TagRules
import HtmlTemplate.Proofs.Texts
import HtmlTemplate.Proofs.Transparency
import HtmlTemplate.Proofs.Visits
import HtmlTemplate.Proofs.Waiting
import HtmlTemplate.Resolve.Convert
import HtmlTemplate.Resolve.Fill
import HtmlTemplate.Resolve.Name
import HtmlTemplate.Resolve.Session
import HtmlTemplate.Skeleton.Builder
import HtmlTemplate.Skeleton.Marker
import HtmlTemplate.Skeleton.Tree
import HtmlTemplate.Template.Basic
import HtmlTemplate.Template.Chunk
import HtmlTemplate.Template.Interpolation
import HtmlTemplate.Template.Source
import HtmlTemplate.Template.SourceError
import HtmlTemplate.Text.Basic
import HtmlTemplate.Text.Blank
import HtmlTemplate.Text.CaseTable
import HtmlTemplate.Text.Letter
import HtmlTemplate.Text.Lowercase
import HtmlTemplate.Text.Order
import HtmlTemplate.Text.Quoted
import HtmlTemplate.Text.RangeTable
import HtmlTemplate.Text.Unprintable
import HtmlTemplate.Text.Width
import HtmlTemplate.Toml.Document
import HtmlTemplate.Toml.Reader
import HtmlTemplate.Toml.Scalar
import HtmlTemplate.Toml.Table
import HtmlTemplate.Toml.Value
import HtmlTemplate.Value.Basic
import HtmlTemplate.Value.Display
import HtmlTemplate.Value.OfToml
