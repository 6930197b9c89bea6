import StyledMarkdown.Event
/-!
# Building trees from events

The containers that are open form a stack of frames above the one of the
document. Past a limit a container is folded: it opens no frame, so what
it holds lands in the innermost frame kept, and its end is counted off
against it. Surplus ends are ignored and missing ones are supplied.
-/

namespace StyledMarkdown

/-- What a frame becomes once it closes. -/
inductive Pending where
  | document
  | container (tag : Tag)

/-- An open container with the nodes in it, latest first, and the raw
content of a block of code or of markup. -/
structure Frame where
  pending : Pending
  children : List Node := []
  literal : String := ""

namespace Frame

/-- Whether text in the container is raw content and not a node. -/
def collectsLiteral (frame : Frame) : Bool :=
  match frame.pending with
  | .container (.fencedCode _) | .container .indentedCode | .container .htmlBlock => true
  | _ => false

/-- Adds a node. Text right after text continues it, so a run of plain
text is one leaf. -/
def push (frame : Frame) (node : Node) : Frame :=
  match node, frame.children with
  | .text next, .text previous :: rest =>
    { frame with children := .text (previous ++ next) :: rest }
  | _, children => { frame with children := node :: children }

def pushLiteral (frame : Frame) (content : String) : Frame :=
  { frame with literal := frame.literal ++ content }

end Frame

/-! ## Items -/

/-- The paragraph of a run of inline nodes, latest first; an empty run has none. -/
def wrapRun (run : List Node) : List Node :=
  if run.isEmpty then [] else [.paragraph run.reverse]

/-- Wraps what is inline behind a run that is already open. -/
def wrapInlineRunsAfter (run : List Node) : List Node → List Node
  | [] => wrapRun run
  | node :: rest =>
    if node.isInline then wrapInlineRunsAfter (node :: run) rest
    else wrapRun run ++ node :: wrapInlineRunsAfter [] rest

/-- **Each maximal run of inline nodes becomes a paragraph.** A tight item
then has the same structure as a loose one. -/
def wrapInlineRuns (nodes : List Node) : List Node := wrapInlineRunsAfter [] nodes

/-- A title that says nothing is no title. -/
def title? (title : String) : Option String := if title.isEmpty then none else some title

/-- The node of a container. -/
def Tag.node (tag : Tag) (children : List Node) (literal : String) : Node :=
  match tag with
  | paragraph => .paragraph children
  | heading level => .heading level children
  | blockQuote => .blockQuote children
  | orderedList start delimiter => .orderedList (.clamp start) delimiter children
  | bulletList marker => .bulletList marker children
  | listItem => .listItem (wrapInlineRuns children)
  | fencedCode fence => .fencedCode fence literal
  | indentedCode => .indentedCode literal
  | htmlBlock => .htmlBlock literal
  | emphasis => .emphasis children
  | strong => .strong children
  | link destination title => .link destination (title? title) children
  | image destination title => .image destination (title? title) children
  | unsupported => .unsupported "Unsupported" children

/-- The node of a frame once it closes. -/
def Frame.toNode (frame : Frame) : Node :=
  match frame.pending with
  | .document => .document frame.children.reverse
  | .container tag => tag.node frame.children.reverse frame.literal

/-! ## The builder -/

/-- The open frames, innermost first, and the containers opened past the
limit and not closed yet. -/
structure Builder where
  frames : List Frame := [{ pending := .document }]
  folded : Nat := 0

namespace Builder

/-- Changes the innermost frame. -/
def onTop (b : Builder) (change : Frame → Frame) : Builder :=
  match b.frames with
  | [] => b
  | top :: rest => { b with frames := change top :: rest }

/-- Opens a container, or folds it when `limit` containers are open. -/
def enter (limit : Nat) (b : Builder) (tag : Tag) : Builder :=
  if limit < b.frames.length then { b with folded := b.folded + 1 }
  else { b with frames := { pending := .container tag } :: b.frames }

/-- Closes the innermost container: a folded one if there is any, and
never the document. -/
def leave (b : Builder) : Builder :=
  if 0 < b.folded then { b with folded := b.folded - 1 }
  else match b.frames with
    | top :: next :: rest => { b with frames := next.push top.toNode :: rest }
    | _ => b

/-- Adds text where the innermost frame keeps it. -/
def addText (b : Builder) (content : String) (node : String → Node) : Builder :=
  b.onTop fun top =>
    if top.collectsLiteral then top.pushLiteral content else top.push (node content)

/-- One event. -/
def step (limit : Nat) (b : Builder) : Event → Builder
  | .start tag => b.enter limit tag
  | .stop => b.leave
  | .text content => b.addText content .text
  | .html content => b.addText content .htmlInline
  | .inlineHtml content => b.onTop (·.push (.htmlInline content))
  | .code content => b.onTop (·.push (.code content))
  | .softBreak => b.onTop (·.push .softBreak)
  | .hardBreak => b.onTop (·.push .hardBreak)
  | .rule => b.onTop (·.push .thematicBreak)
  | .ignored => b

/-- A whole stream of events. -/
def run (limit : Nat) (events : List Event) (b : Builder := {}) : Builder :=
  events.foldl (step limit) b

/-- Closes frames into each other until one is left. -/
def closeAll : List Frame → Node
  | [] => .document []
  | [last] => last.toNode
  | top :: next :: rest => closeAll (next.push top.toNode :: rest)
termination_by frames => frames.length

/-- Closes whatever is still open. -/
def finish (b : Builder) : Node := closeAll b.frames

end Builder

/-- How many containers are kept open below the document. -/
def maxNesting : Nat := 512

/-- **The tree of a stream of events**, with at most `limit` open containers. -/
def Node.ofEvents (events : List Event) (limit : Nat := maxNesting) : Node :=
  (Builder.run limit events).finish

end StyledMarkdown
