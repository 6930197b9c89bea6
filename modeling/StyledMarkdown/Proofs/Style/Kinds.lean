import StyledMarkdown.Style
/-!
# The kinds of spans

Style sheet and placement say how a node is displayed and never what its
span stands for. The kind of the span is told by the node alone, so which
spans are those of quotes, of soft breaks or of content can be read off the
nodes they were made for.
-/

namespace StyledMarkdown

namespace Node

/-- What the span of a node stands for. A node without a style of its own
has the placeholder. -/
def spanKind : Node → SpanKind
  | document _ | unsupported .. => .document
  | heading level _ => .heading level
  | paragraph _ => .paragraph
  | blockQuote _ => .blockQuote
  | orderedList start delimiter _ => .orderedList start delimiter
  | bulletList marker _ => .bulletList marker
  | listItem _ => .listItem
  | fencedCode .. => .fencedCode
  | indentedCode _ => .indentedCode
  | htmlBlock _ => .htmlBlock
  | link destination _ _ => .link destination
  | image destination _ _ => .image destination
  | emphasis _ => .emphasis
  | strong _ => .strong
  | code _ => .code
  | htmlInline _ => .htmlInline
  | text _ => .text
  | softBreak => .softBreak
  | hardBreak => .hardBreak
  | thematicBreak => .thematicBreak

/-- The node rebuilt from a kind carries a text just if the first one does. -/
theorem isSome_literal?_toNode_spanKind (node : Node) (literal : String) :
    (node.spanKind.toNode literal).literal?.isSome = node.literal?.isSome := by
  cases node <;> rfl

theorem exists_of_spanKind_eq_blockQuote {node : Node} (h : node.spanKind = .blockQuote) :
    ∃ children, node = .blockQuote children := by
  cases node with
  | blockQuote children => exact ⟨children, rfl⟩
  | _ => cases h

theorem eq_of_spanKind_eq_softBreak {node : Node} (h : node.spanKind = .softBreak) :
    node = .softBreak := by
  cases node with
  | softBreak => rfl
  | _ => cases h

end Node

/-- **The kind of a span is that of its node**, under every style sheet and
wherever the node stands. -/
theorem StyleSheet.kind_spanFor (sheet : StyleSheet) (node : Node) (placement : Placement) :
    (sheet.spanFor node placement).kind = node.spanKind := by
  cases node with
  | paragraph => cases placement <;> rfl
  | _ => rfl

end StyledMarkdown
