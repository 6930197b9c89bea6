import StyledMarkdown.Node
/-!
# Events

A document as a flat stream: containers open and close, and content lies
between. A stream says nothing about balance; building a tree from one
copes with whatever comes.
-/

namespace StyledMarkdown

/-- The container that an event opens. -/
inductive Tag where
  | paragraph
  | heading (level : Nat)
  | blockQuote
  /-- `start` is the number in front of the first item. -/
  | orderedList (start : Nat) (delimiter : Char)
  | bulletList (marker : Char)
  | listItem
  | fencedCode (fence : Fence)
  | indentedCode
  | htmlBlock
  | emphasis
  | strong
  | link (destination title : String)
  | image (destination title : String)
  /-- A container outside the language of these trees. -/
  | unsupported

/-- A step through a document. -/
inductive Event where
  | start (tag : Tag)
  | stop
  | text (content : String)
  /-- A line of a block of raw markup. -/
  | html (content : String)
  | inlineHtml (content : String)
  | code (content : String)
  | softBreak
  | hardBreak
  | rule
  /-- Anything else, which leaves no trace. -/
  | ignored

end StyledMarkdown
