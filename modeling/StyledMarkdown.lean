import StyledMarkdown.Builder
import StyledMarkdown.Cli
import StyledMarkdown.Color
import StyledMarkdown.Config
import StyledMarkdown.Config.Load
import StyledMarkdown.Dump
import StyledMarkdown.Event
import StyledMarkdown.File
import StyledMarkdown.Link
import StyledMarkdown.Link.Resolve
import StyledMarkdown.ListStack
import StyledMarkdown.Main
import StyledMarkdown.Markup.Block
import StyledMarkdown.Markup.Document
import StyledMarkdown.Markup.Emphasis
import StyledMarkdown.Markup.Glyph
import StyledMarkdown.Markup.Inline
import StyledMarkdown.Markup.Leaf
import StyledMarkdown.Markup.Line
import StyledMarkdown.Markup.Reference
import StyledMarkdown.Markup.Tag
import StyledMarkdown.Node
import StyledMarkdown.Number.Binary
import StyledMarkdown.Number.Decimal
import StyledMarkdown.Number.Numeral
import StyledMarkdown.Number.Saturating
import StyledMarkdown.Number.Shortest
import StyledMarkdown.Proofs.Builder.Content
import StyledMarkdown.Proofs.Builder.Events
import StyledMarkdown.Proofs.Builder.Folding
import StyledMarkdown.Proofs.Builder.Frames
import StyledMarkdown.Proofs.Builder.Height
import StyledMarkdown.Proofs.Builder.Items
import StyledMarkdown.Proofs.Builder.Runs
import StyledMarkdown.Proofs.Builder.Shape
import StyledMarkdown.Proofs.Markup.Items
import StyledMarkdown.Proofs.Number.Counting
import StyledMarkdown.Proofs.Number.Digits
import StyledMarkdown.Proofs.Number.Hexadecimal
import StyledMarkdown.Proofs.Operations.Brackets
import StyledMarkdown.Proofs.Operations.Lists
import StyledMarkdown.Proofs.Operations.Writing
import StyledMarkdown.Proofs.Rendering.BlankLines
import StyledMarkdown.Proofs.Rendering.Columns
import StyledMarkdown.Proofs.Rendering.Content
import StyledMarkdown.Proofs.Rendering.Coverage
import StyledMarkdown.Proofs.Rendering.Depth
import StyledMarkdown.Proofs.Rendering.Ends
import StyledMarkdown.Proofs.Rendering.Flattening
import StyledMarkdown.Proofs.Rendering.Geometry
import StyledMarkdown.Proofs.Rendering.Innermost
import StyledMarkdown.Proofs.Rendering.Levels
import StyledMarkdown.Proofs.Rendering.Locality
import StyledMarkdown.Proofs.Rendering.LooseItems
import StyledMarkdown.Proofs.Rendering.Margins
import StyledMarkdown.Proofs.Rendering.Markings
import StyledMarkdown.Proofs.Rendering.Nesting
import StyledMarkdown.Proofs.Rendering.OpenLists
import StyledMarkdown.Proofs.Rendering.Parts
import StyledMarkdown.Proofs.Rendering.Position
import StyledMarkdown.Proofs.Rendering.Prefixes
import StyledMarkdown.Proofs.Rendering.Queries
import StyledMarkdown.Proofs.Rendering.Quotes
import StyledMarkdown.Proofs.Rendering.Ranges
import StyledMarkdown.Proofs.Rendering.Resolving
import StyledMarkdown.Proofs.Rendering.Restyling
import StyledMarkdown.Proofs.Rendering.Separation
import StyledMarkdown.Proofs.Rendering.SoftBreaks
import StyledMarkdown.Proofs.Rendering.Spans
import StyledMarkdown.Proofs.Rendering.Steps
import StyledMarkdown.Proofs.Rendering.Tiling
import StyledMarkdown.Proofs.Rendering.Trimming
import StyledMarkdown.Proofs.Rendering.Visits
import StyledMarkdown.Proofs.Rendering.Walk
import StyledMarkdown.Proofs.Rendering.Wrappers
import StyledMarkdown.Proofs.Style.Colors
import StyledMarkdown.Proofs.Style.Kinds
import StyledMarkdown.Proofs.Text.Boundary
import StyledMarkdown.Proofs.Text.Lines
import StyledMarkdown.Proofs.Text.Quoting
import StyledMarkdown.Proofs.Text.Sketch
import StyledMarkdown.Proofs.Tree.Descriptions
import StyledMarkdown.Proofs.Tree.Dumps
import StyledMarkdown.Proofs.Tree.Items
import StyledMarkdown.Proofs.Tree.Numbering
import StyledMarkdown.Proofs.Tree.Splicing
import StyledMarkdown.Proofs.Tree.Tidy
import StyledMarkdown.Proofs.Tree.Tour
import StyledMarkdown.Rendered
import StyledMarkdown.Renderer
import StyledMarkdown.Span
import StyledMarkdown.Style
import StyledMarkdown.Text.Blank
import StyledMarkdown.Text.Bytes
import StyledMarkdown.Text.CaseFold
import StyledMarkdown.Text.Entity
import StyledMarkdown.Text.Hidden
import StyledMarkdown.Text.Pieces
import StyledMarkdown.Text.Punctuation
import StyledMarkdown.Text.Quoted
import StyledMarkdown.Toml.Document
import StyledMarkdown.Toml.Draft
import StyledMarkdown.Toml.Quoted
import StyledMarkdown.Toml.Scalar
import StyledMarkdown.Toml.Value
import StyledMarkdown.Url.Domain
import StyledMarkdown.Url.Host
import StyledMarkdown.Url.Parse
import StyledMarkdown.Url.Path
import StyledMarkdown.Url.Percent
import StyledMarkdown.Url.Punycode
import StyledMarkdown.Writer
