import StyledMarkdown.ListStack
import StyledMarkdown.Style
/-!
# Rendering

A walk over the tree, depth first, that writes the text on the way down
and sets the span of each unit on the way up, once its extent is known.
A step may fail, and leaves its state behind either way: `enclose`,
`deeper` and `within` put the cursors, the depth and the lists back as
they found them, whatever happens inside.
-/

namespace StyledMarkdown

/-- The extent of a rendered list in the buffer. -/
structure Extent where
  start : Nat
  stop : Nat
deriving DecidableEq

/-- The state of a rendering. -/
structure Rendering where
  writer : Writer := {}
  lists : ListStack := {}
  /-- The lists rendered so far, latest first. -/
  extents : List Extent := []
  depth : Nat := 0

/-- A step of a rendering. -/
abbrev RenderM := ExceptT RenderError (StateM Rendering)

/-- What a node stands in. -/
inductive Parent where
  | none
  | document
  | blockQuote
  | other
deriving DecidableEq

/-- Where a node below this parent stands. -/
def Parent.placement : Parent → Placement
  | none | document => .outermost
  | blockQuote | other => .nested

namespace RenderM

/-! ## Writing -/

def write (content : String) : RenderM Unit :=
  modify fun s => { s with writer := s.writer.write content }

def line : RenderM Unit := modify fun s => { s with writer := s.writer.line }

def lineIfNeeded : RenderM Unit := modify fun s => { s with writer := s.writer.lineIfNeeded.2 }

def tabIfNeeded : RenderM Unit := modify fun s => { s with writer := s.writer.tabIfNeeded.2 }

def cursor : RenderM Nat := return (← get).writer.cursor

def setSpan (span : GroupSpan) (start : Nat) : RenderM Unit :=
  modify fun s => { s with writer := s.writer.setSpan span start }

def setLayout (directive : Directive) (start stop : Nat) : RenderM Unit :=
  modify fun s => { s with writer := s.writer.setLayout directive start stop }

/-! ## Steps around a step -/

/-- **Saves the cursor around a step** and returns it, if the step succeeds. -/
def enclose (body : Nat → RenderM Unit) : RenderM Nat := ExceptT.mk fun s =>
  let (start, writer) := s.writer.saveCursor
  let (result, s) := (body start).run { s with writer }
  match s.writer.retrieveCursor with
  | .error e => (.error e, s)
  | .ok (start, writer) => (result.map fun () => start, { s with writer })

/-- One level further down, unless that is too deep. -/
def deeper (maxDepth : Nat) (body : RenderM Unit) : RenderM Unit := ExceptT.mk fun s =>
  if maxDepth ≤ s.depth then (.error (.depthExceeded maxDepth), s)
  else
    let (result, s) := body.run { s with depth := s.depth + 1 }
    (result, { s with depth := s.depth - 1 })

/-- Inside one more list. -/
def within (kind : ListKind) (body : RenderM Unit) : RenderM Unit := ExceptT.mk fun s =>
  let (result, s) := body.run { s with lists := s.lists.push kind }
  match s.lists.pop with
  | .error e => (.error e, s)
  | .ok (_, lists) => (result, { s with lists })

end RenderM

open RenderM

/-! ## The prefix of an item -/

/-- Where the prefix of a list item stands. -/
structure PrefixGeometry where
  digits : Nat
  digitWidth : Pixels
  tabLocation : Pixels
  indentation : Pixels

/-- The geometry of a list's prefixes: wide enough for the last number of
an ordered list, two digits and the dot at least, and one bullet as wide
as three digits. Outside any list the standard geometry holds. -/
def PrefixGeometry.of (sheet : StyleSheet) (context : Option ListContext) : PrefixGeometry :=
  let digitWidth := sheet.maxDigitWidth
  let margin := sheet.listItemContentMargin
  match context with
  | none => ⟨3, digitWidth, margin, 0⟩
  | some context =>
    let indentation := .clamp context.depth * margin
    match context.kind with
    | .ordered _ _ largestPrefix =>
      let digits := max (digitCount largestPrefix) 2 + 1
      ⟨digits, digitWidth, .clamp digits * digitWidth + sheet.listPrefixGapWidth, indentation⟩
    | .bulleted _ => ⟨1, digitWidth * 3, margin, indentation⟩

/-- Takes the prefix of the next item, empty outside any list. -/
def takePrefix : RenderM String := do
  let (text, lists) := (← get).lists.nextPrefix?
  modify fun s => { s with lists }
  return text.getD ""

/-! ## The parts of an item -/

/-- The byte offset of the first line end in a text. -/
def lineEnd? : List Char → Option Nat
  | [] => none
  | c :: cs => if c = '\n' then some 0 else (lineEnd? cs).map (c.utf8Size + ·)

/-- The start of the first list nested in the range: of the lists that
begin after `start` and end by `stop`, the one that begins first. -/
def nestedList? (extents : List Extent) (start stop : Nat) : Option Nat :=
  ((extents.filter fun e => start < e.start && e.stop ≤ stop).map Extent.start).min?

/-- **The boundaries between the parts of an item.** The first part runs
up to the first result and the second part, if there is one, from there
up to the second. An inner line end parts the first paragraph from what
follows, and the line end before a nested list stays with the part
before it. -/
def itemBoundaries (buffer : Buffer) (extents : List Extent) (start stop : Nat) :
    Nat × Option Nat :=
  let secondParagraph := do
    let index := start + (← lineEnd? (buffer.since start))
    guard (index < stop - 1)
    return index
  match secondParagraph, nestedList? extents start stop with
  | some paragraph, none => (paragraph + 1, some stop)
  | none, some list => (list + 1, none)
  | some paragraph, some list =>
    if paragraph = list then (list + 1, none) else (paragraph + 1, some list)
  | none, none => (stop, none)

/-- Marks the parts of an item that spans from `start` to the cursor. The
tab stop places the content behind the prefix, so the first line of the
first part needs no margin; every line of the second part has one, and a
nested list brings its own. -/
def layOutItem (sheet : StyleSheet) (geometry : PrefixGeometry) (start : Nat) : RenderM Unit := do
  let s ← get
  let (first, second) := itemBoundaries s.writer.buffer s.extents start s.writer.cursor
  let margin := geometry.indentation + sheet.listItemContentMargin
  setLayout (.leadingMargin geometry.indentation margin) start first
  setLayout (.tabStop geometry.tabLocation) start first
  if let some second := second then
    setLayout (.leadingMargin margin margin) first second
  setLayout (.paragraphSpacing sheet.listItemSpacingBefore sheet.listItemSpacingAfter) start
    (second.getD first)

/-! ## The walk -/

section Walk

variable (sheet : StyleSheet) (options : RenderOptions)

/-- Writes a unit and marks it with the span of its node. -/
def spanned (node : Node) (parent : Parent) (body : RenderM Unit) : RenderM Unit := do
  let start ← enclose fun _ => body
  setSpan (sheet.spanFor node parent.placement) start

/-- Renders a list around its items. A list inside a list starts on a
line of its own. -/
def renderList (node : Node) (parent : Parent) (kind : ListKind) (items : RenderM Unit) :
    RenderM Unit := do
  let start ← enclose fun _ => do
    if (← get).lists.isActive then line
    within kind items
    lineIfNeeded
  setSpan (sheet.spanFor node parent.placement) start
  modify fun s => { s with extents := ⟨start, s.writer.cursor⟩ :: s.extents }

/-- Renders an item around its content. -/
def renderItem (node : Node) (parent : Parent) (content : RenderM Unit) : RenderM Unit := do
  let geometry := PrefixGeometry.of sheet (← get).lists.current?
  let text ← takePrefix
  let start ← enclose fun start => do
    write text
    let stop ← cursor
    setLayout (.absoluteSize sheet.baseFontSize) start stop
    setLayout (.listPrefix geometry.digits geometry.digitWidth sheet.listPrefixColor) start stop
    tabIfNeeded
    content
    lineIfNeeded
  layOutItem sheet geometry start
  setSpan (sheet.spanFor node parent.placement) start

/-- Renders a quote around its content. A quote inside a quote gets a line
of its own but, when quotes are flattened, no span. -/
def renderQuote (node : Node) (parent : Parent) (content : RenderM Unit) : RenderM Unit := do
  if parent = .blockQuote then line
  let start ← enclose fun _ => do
    content
    lineIfNeeded
  if parent.placement = .outermost || !options.flattenNestedQuotes then
    setSpan (sheet.spanFor node parent.placement) start

mutual

/-- **Renders a node below its parent.** A block ends with a line end,
except for a nested paragraph, which leaves that to the block around it. -/
def visit (node : Node) (parent : Parent) : RenderM Unit :=
  deeper options.maxDepth <| match node with
    | .document children => visitAll children .document
    | .heading level children => spanned sheet (.heading level children) parent do
      visitAll children .other
      lineIfNeeded
    | .paragraph children => spanned sheet (.paragraph children) parent do
      visitAll children .other
      if parent.placement = .outermost then lineIfNeeded
    | .blockQuote children =>
      renderQuote sheet options (.blockQuote children) parent (visitAll children .blockQuote)
    | .orderedList start delimiter children =>
      let node := Node.orderedList start delimiter children
      renderList sheet node parent (.ordered start start (node.largestPrefix?.getD start))
        (visitAll children .other)
    | .bulletList marker children =>
      renderList sheet (.bulletList marker children) parent (.bulleted marker)
        (visitAll children .other)
    | .listItem children =>
      renderItem sheet (.listItem children) parent (visitAll children .other)
    | .fencedCode fence literal => spanned sheet (.fencedCode fence literal) parent (write literal)
    | .indentedCode literal => spanned sheet (.indentedCode literal) parent (write literal)
    | .htmlBlock literal => spanned sheet (.htmlBlock literal) parent do
      write literal
      lineIfNeeded
    | .link destination title children =>
      spanned sheet (.link destination title children) parent (visitAll children .other)
    | .image destination title children =>
      spanned sheet (.image destination title children) parent (visitAll children .other)
    | .emphasis children => spanned sheet (.emphasis children) parent (visitAll children .other)
    | .strong children => spanned sheet (.strong children) parent (visitAll children .other)
    | .unsupported name children =>
      spanned sheet (.unsupported name children) parent (visitAll children .other)
    | .code literal => spanned sheet (.code literal) parent (write literal)
    | .htmlInline literal => spanned sheet (.htmlInline literal) parent (write literal)
    | .text literal => spanned sheet (.text literal) parent (write literal)
    | .softBreak => spanned sheet .softBreak parent
      (write (if options.softBreaksAsHardBreaks then "\n" else " "))
    | .hardBreak => spanned sheet .hardBreak parent line
    | .thematicBreak => spanned sheet .thematicBreak parent (write "---\n")

/-- Renders the children of a node in order, up to the first that fails. -/
def visitAll (children : List Node) (parent : Parent) : RenderM Unit :=
  match children with
  | [] => pure ()
  | child :: rest => do
    visit child parent
    visitAll rest parent

end

/-- **Renders a document**: its text and the annotations that style it. -/
def render (node : Node) : Except RenderError Rendered :=
  let (result, s) := (visit sheet options node .none).run {}
  result.map fun () => s.writer.finish

end Walk

end StyledMarkdown
