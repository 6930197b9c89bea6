import StyledMarkdown.Config
import StyledMarkdown.Span
/-!
# Style sheets

The style of every unit of markdown, worked out from a configuration.
Lengths are scaled by the density here and nowhere else, so a directive
holds pixels from the start.
-/

namespace StyledMarkdown

/-- Where a node stands in its document. -/
inductive Placement where
  /-- The root, or right below the document. -/
  | outermost
  | nested
deriving DecidableEq

structure StyleSheet where
  config : Config := {}

namespace StyleSheet

variable (sheet : StyleSheet)

/-! ## Metrics -/

/-- A length in pixels, the fraction cut off. -/
def scaled (points : Points) : Pixels :=
  (Binary.mul .single (.ofInt .single points.val) sheet.config.density).truncate

def baseFontSize : Pixels := sheet.scaled sheet.config.font.size

/-- The width of the widest digit. -/
def maxDigitWidth : Pixels :=
  (Binary.mul .single sheet.config.list.digitWidth sheet.config.density).truncate

def listPrefixGapWidth : Pixels := sheet.scaled sheet.config.list.prefixGapWidth

/-- **The margin of list items**: three digits and the gap. The content of
an item begins here, and so does each of its wrapped lines. -/
def listItemContentMargin : Pixels := sheet.maxDigitWidth * 3 + sheet.listPrefixGapWidth

def listItemSpacingBefore : Pixels := sheet.scaled sheet.config.list.itemSpacingBefore

def listItemSpacingAfter : Pixels := sheet.scaled sheet.config.list.itemSpacingAfter

def listPrefixColor : Color := sheet.config.list.prefixColor

/-! ## Spans -/

def paragraphSpacing : Directive :=
  .paragraphSpacing (sheet.scaled sheet.config.paragraph.spacingBefore)
    (sheet.scaled sheet.config.paragraph.spacingAfter)

/-- Code and raw markup in a block of their own. -/
def codeBlock (kind : SpanKind) : GroupSpan :=
  let indentation := sheet.scaled sheet.config.code.blockIndentation
  ⟨kind, [.monospace, .leadingMargin indentation indentation,
    .foreground sheet.config.code.color, sheet.paragraphSpacing]⟩

def inlineCode (kind : SpanKind) : GroupSpan :=
  ⟨kind, [.monospace, .foreground sheet.config.code.color]⟩

def linkTo (kind : SpanKind) (destination : String) : GroupSpan :=
  ⟨kind, [.link ⟨destination, sheet.config.links.customScheme⟩,
    .foreground sheet.config.links.color]⟩

/-- **The span of a node.** The nodes inside it and its content have no
part in it, and its placement matters only for a paragraph: the unit
around a nested one supplies the spacing. -/
def spanFor (node : Node) (placement : Placement) : GroupSpan :=
  let config := sheet.config
  match node with
  | .heading level _ =>
    let factor := (config.heading.multiplier? level).getD (singleOfDecimal 1 0)
    ⟨.heading level, [.relativeSize factor, sheet.paragraphSpacing, .bold]⟩
  | .paragraph _ =>
    match placement with
    | .outermost => ⟨.paragraph, [sheet.paragraphSpacing]⟩
    | .nested => ⟨.paragraph, [.paragraphSpacing 0 0]⟩
  | .blockQuote _ =>
    let quote := config.quote
    let stripeWidth := sheet.scaled quote.stripeWidth
    ⟨.blockQuote,
      [.quoteStripe quote.stripeColor stripeWidth (sheet.scaled quote.gapWidth),
        .paragraphSpacing (sheet.scaled quote.spacingBefore) (sheet.scaled quote.spacingAfter),
        .foreground quote.color]⟩
  | .orderedList start delimiter _ => ⟨.orderedList start delimiter, []⟩
  | .bulletList marker _ => ⟨.bulletList marker, []⟩
  | .listItem _ => ⟨.listItem, []⟩
  | .fencedCode .. => sheet.codeBlock .fencedCode
  | .indentedCode _ => sheet.codeBlock .indentedCode
  | .htmlBlock _ => sheet.codeBlock .htmlBlock
  | .link destination _ _ => sheet.linkTo (.link destination) destination
  | .image destination _ _ => sheet.linkTo (.image destination) destination
  | .emphasis _ => ⟨.emphasis, [.italic]⟩
  | .strong _ => ⟨.strong, [.bold]⟩
  | .code _ => sheet.inlineCode .code
  | .htmlInline _ => sheet.inlineCode .htmlInline
  | .text _ => ⟨.text, [.absoluteSize sheet.baseFontSize, .foreground config.font.color]⟩
  | .softBreak => ⟨.softBreak, []⟩
  | .hardBreak => ⟨.hardBreak, []⟩
  | .thematicBreak => ⟨.thematicBreak, []⟩
  | .document _ | .unsupported .. => ⟨.document, []⟩

end StyleSheet

end StyledMarkdown
