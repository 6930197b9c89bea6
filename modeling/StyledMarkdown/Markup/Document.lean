import StyledMarkdown.Builder
import StyledMarkdown.Markup.Block
import StyledMarkdown.Markup.Inline
/-!
# Documents

A text of markdown as events, and as a tree. Paragraphs right inside the
items of a tight list leave their content to the item.
-/

namespace StyledMarkdown

namespace Markup

/-- The tag of a list. -/
def ListMarker.tag : ListMarker → Tag
  | bullet sign => .bulletList sign
  | numbered start delimiter => .orderedList start delimiter

/-- Events inside a container. -/
def enclosed (tag : Tag) (inside : List Event) : List Event := .start tag :: inside ++ [.stop]

/-- The events of a line of markup. The spaces it begins with are text,
and a last character cut off from the rest is an event of its own. -/
def RawLine.events (line : RawLine) : List Event :=
  (if line.spaces = 0 then [] else [.text (String.ofList (List.replicate line.spaces ' '))]) ++
    .html (String.ofList line.text) ::
      if line.last.isEmpty then [] else [.html (String.ofList line.last)]

mutual

/-- The events of a block, which may stand right in a tight item. -/
def Block.events (definitions : Definitions) (tight : Bool) : Block → List Event
  | .paragraph content =>
    let inside := inlineEvents definitions content
    if tight then inside else enclosed .paragraph inside
  | .heading level content true =>
    enclosed (.heading level) (headingEvents definitions content true)
  | .heading level content false =>
    enclosed (.heading level) (inlineEvents definitions content)
  | .rule => [.rule]
  | .fencedCode fence literal =>
    enclosed (.fencedCode fence) (if literal.isEmpty then [] else [.text (String.ofList literal)])
  | .indentedCode literal => enclosed .indentedCode [.text (String.ofList literal)]
  | .html lines => enclosed .htmlBlock (lines.flatMap RawLine.events)
  | .quote content => enclosed .blockQuote (contentEvents definitions false content)
  | .list marker tight items => enclosed marker.tag (itemEvents definitions tight items)

def contentEvents (definitions : Definitions) (tight : Bool) : List Block → List Event
  | [] => []
  | block :: blocks => block.events definitions tight ++ contentEvents definitions tight blocks

def itemEvents (definitions : Definitions) (tight : Bool) : List (List Block) → List Event
  | [] => []
  | item :: items =>
    enclosed .listItem (contentEvents definitions tight item) ++ itemEvents definitions tight items

end

/-- **The events of a text.** -/
def events (text : String) : List Event :=
  let (blocks, definitions) := blocks text.toList
  contentEvents definitions false blocks

end Markup

/-- **The tree of a text of markdown**, with at most `limit` containers
open below the document. -/
def Node.ofMarkdown (text : String) (limit : Nat := maxNesting) : Node :=
  .ofEvents (Markup.events text) limit

end StyledMarkdown
