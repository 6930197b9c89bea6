import StyledMarkdown.Color
import StyledMarkdown.Link
import StyledMarkdown.Node
import StyledMarkdown.Number.Decimal
import StyledMarkdown.Number.Shortest
/-!
# Spans and the directives in them

A directive is one instruction for the display. A group span gathers the
directives of one unit of markdown and says which unit it is, so a span
is enough to rebuild a node of its kind. An annotation places a span, or
a single directive of layout, over a range of the rendered text.
-/

namespace StyledMarkdown

/-! ## Directives -/

/-- One instruction for the display. Lengths are in pixels. -/
inductive Directive where
  | relativeSize (factor : Binary)
  | absoluteSize (size : Pixels)
  | paragraphSpacing (before after : Pixels)
  | bold
  | italic
  | monospace
  | foreground (color : Color)
  | quoteStripe (color : Color) (stripe gap : Pixels)
  /-- How far the first line of a paragraph is indented, and every line after it. -/
  | leadingMargin (first rest : Pixels)
  | tabStop (location : Pixels)
  /-- A prefix aligned to the right in `digits` cells of one character each. -/
  | listPrefix (digits : Nat) (digitWidth : Pixels) (color : Color)
  | link (action : LinkAction)
deriving BEq

/-- The written form of a directive. -/
def Directive.toText : Directive → String
  | relativeSize factor => "relative-size(" ++ factor.toText .single ++ ")"
  | absoluteSize size => "absolute-size(" ++ toString size ++ ")"
  | paragraphSpacing before after =>
    "paragraph-spacing(" ++ toString before ++ ", " ++ toString after ++ ")"
  | bold => "bold"
  | italic => "italic"
  | monospace => "monospace"
  | foreground color => "foreground(" ++ color.toText ++ ")"
  | quoteStripe color stripe gap =>
    "quote-stripe(" ++ color.toText ++ ", " ++ toString stripe ++ ", " ++ toString gap ++ ")"
  | leadingMargin first rest =>
    "leading-margin(" ++ toString first ++ ", " ++ toString rest ++ ")"
  | tabStop location => "tab-stop(" ++ toString location ++ ")"
  | listPrefix digits digitWidth color =>
    "list-prefix(" ++ toString digits ++ ", " ++ toString digitWidth ++ ", " ++ color.toText ++ ")"
  | link action => "link(" ++ action.url ++ ")"

/-! ## Spans -/

/-- The unit of markdown a span stands for, with what it takes to rebuild it. -/
inductive SpanKind where
  /-- Also the placeholder for a node without a style of its own. -/
  | document
  | heading (level : Nat)
  | paragraph
  | blockQuote
  | orderedList (start : Ordinal) (delimiter : Char)
  | bulletList (marker : Char)
  | listItem
  | fencedCode
  | indentedCode
  | htmlBlock
  | link (destination : String)
  | image (destination : String)
  | emphasis
  | strong
  | code
  | htmlInline
  | text
  | softBreak
  | hardBreak
  | thematicBreak
deriving DecidableEq

/-- Which of several spans over the same range counts first. -/
inductive Priority where
  | high
  | medium
  | low
deriving DecidableEq

namespace Priority

/-- The place of a priority in their order, the highest first. -/
def rank : Priority → Nat
  | high => 0
  | medium => 1
  | low => 2

def name : Priority → String
  | high => "High"
  | medium => "Medium"
  | low => "Low"

end Priority

namespace SpanKind

/-- A node of the kind without children, with `literal` as its content if
the kind has one. -/
def toNode (literal : String) : SpanKind → Node
  | document => .document []
  | heading level => .heading level []
  | paragraph => .paragraph []
  | blockQuote => .blockQuote []
  | orderedList start delimiter => .orderedList start delimiter []
  | bulletList marker => .bulletList marker []
  | listItem => .listItem []
  | fencedCode => .fencedCode { indent := 4 } literal
  | indentedCode => .indentedCode literal
  | htmlBlock => .htmlBlock literal
  | link destination => .link destination none []
  | image destination => .image destination none []
  | emphasis => .emphasis []
  | strong => .strong []
  | code => .code literal
  | htmlInline => .htmlInline literal
  | text => .text literal
  | softBreak => .softBreak
  | hardBreak => .hardBreak
  | thematicBreak => .thematicBreak

/-- The name of the kind. -/
def name : SpanKind → String
  | document => "Document"
  | heading _ => "Heading"
  | paragraph => "Paragraph"
  | blockQuote => "BlockQuote"
  | orderedList .. => "OrderedList"
  | bulletList _ => "BulletList"
  | listItem => "ListItem"
  | fencedCode => "FencedCodeBlock"
  | indentedCode => "IndentedCodeBlock"
  | htmlBlock => "HtmlBlock"
  | link _ => "Link"
  | image _ => "Image"
  | emphasis => "Emphasis"
  | strong => "StrongEmphasis"
  | code => "Code"
  | htmlInline => "HtmlInline"
  | text => "Text"
  | softBreak => "SoftLineBreak"
  | hardBreak => "HardLineBreak"
  | thematicBreak => "ThematicBreak"

def priority : SpanKind → Priority
  | document => .high
  | code | text => .low
  | _ => .medium

end SpanKind

/-- The directives that together style one unit of markdown. Of two
directives for the same property the later one wins. -/
structure GroupSpan where
  kind : SpanKind
  directives : List Directive := []
deriving BEq

namespace GroupSpan

def priority (span : GroupSpan) : Priority := span.kind.priority

/-- **A node the span could have come from**, with the text under the
span as its content. -/
def toNode (span : GroupSpan) (literal : Option String) : Node :=
  span.kind.toNode (literal.getD "")

end GroupSpan

/-! ## Annotations -/

/-- What an annotation applies: the span of a unit, or one directive of
layout that the renderer worked out itself. -/
inductive Mark where
  | span (span : GroupSpan)
  | layout (directive : Directive)

/-- A mark over the bytes of a text from `start` up to `stop`. -/
structure Annotation where
  mark : Mark
  start : Nat
  stop : Nat

namespace Annotation

def span? (a : Annotation) : Option GroupSpan :=
  match a.mark with
  | .span span => some span
  | .layout _ => none

def layout? (a : Annotation) : Option Directive :=
  match a.mark with
  | .span _ => none
  | .layout directive => some directive

end Annotation

end StyledMarkdown
