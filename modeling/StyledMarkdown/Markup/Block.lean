import StyledMarkdown.Markup.Leaf
import StyledMarkdown.Markup.Reference
import StyledMarkdown.Node
/-!
# Blocks

The block structure of a document. The containers that are open form a
spine; each line is matched against it from the outside in, what it does
not continue is closed, and the rest of the line continues the innermost
container or opens more. A leaf takes the lines it is made of at once,
so a round of the parser always uses up a line.
-/

namespace StyledMarkdown.Markup

/-- A line of raw text: the spaces that a tab before it still stands for,
the text, and its last character when a carriage return was cut off
before that one. -/
structure RawLine where
  spaces : Nat
  text : List Char
  last : List Char := []

/-- The spaces, the text and the last character as one. -/
def RawLine.toList (line : RawLine) : List Char :=
  List.replicate line.spaces ' ' ++ line.text ++ line.last

/-- The line with what stands in it. A carriage return before the last
byte is cut off, which makes both ends of a line a line feed. -/
def RawLine.ofText (spaces : Nat) (text : List Char) : RawLine :=
  match text.reverse with
  | last :: '\r' :: rest =>
    if last.utf8Size = 1 then ⟨spaces, rest.reverse, [last]⟩ else ⟨spaces, text, []⟩
  | _ => ⟨spaces, text, []⟩

/-- A block, with the text of paragraphs and headings still to be read. -/
inductive Block where
  | paragraph (content : List Glyph)
  /-- `closed` when signs at the end of the line were cut off. -/
  | heading (level : Nat) (content : List Glyph) (closed : Bool)
  | rule
  | fencedCode (fence : Fence) (literal : List Char)
  | indentedCode (literal : List Char)
  | html (lines : List RawLine)
  | quote (content : List Block)
  | list (marker : ListMarker) (tight : Bool) (items : List (List Block))

/-! ## The spine -/

/-- An open container with its content, latest first. -/
inductive Container where
  | quote (content : List Block)
  | list (marker : ListMarker) (tight : Bool) (items : List (List Block))
  | item (indent : Nat) (content : List Block)

/-- **Matches a line against containers**, outermost first: how many it
continues and where their markers end. A quote wants its sign behind at
most three columns, and an item its indentation, unless the line ends
before. -/
def matchContainers (containers : List Container) (c : Cursor) : Nat × Cursor :=
  match containers with
  | [] => (0, c)
  | .quote _ :: inner =>
    let (_, indented) := c.indent 3
    match indented.rest with
    | '>' :: _ =>
      let (n, c) := matchContainers inner ((indented.advance 1).indent 1).2
      (n + 1, c)
    | _ => (0, c)
  | .item indent _ :: inner =>
    let (missing, indented) := c.indent indent
    if missing = 0 || indented.atEnd then
      let (n, c) := matchContainers inner indented
      (n + 1, c)
    else (0, c)
  | .list .. :: inner =>
    let (n, c) := matchContainers inner c
    (n + 1, c)

/-- What has been read so far: the open containers, innermost first, the
closed blocks below the document, latest first, and the definitions. -/
structure Outline where
  spine : List Container := []
  content : List Block := []
  definitions : Definitions := {}
  /-- The line before was blank, in a place where that can part items. -/
  afterBlank : Bool := false
  /-- The line before was the bare marker of an item. -/
  bareItem : Bool := false

namespace Outline

variable (o : Outline)

/-- The spine from the outside in. -/
def containers : List Container := o.spine.reverse

/-- Adds a block to the innermost container. -/
def add (block : Block) : Outline :=
  match o.spine with
  | .quote content :: outer => { o with spine := .quote (block :: content) :: outer }
  | .item indent content :: outer => { o with spine := .item indent (block :: content) :: outer }
  | .list marker tight items :: outer =>
    { o with spine := .list marker tight ([block] :: items) :: outer }
  | [] => { o with content := block :: o.content }

/-- Closes the innermost container. -/
def close : Outline :=
  match o.spine with
  | .quote content :: outer => { o with spine := outer }.add (.quote content.reverse)
  | .list marker tight items :: outer =>
    { o with spine := outer, bareItem := o.bareItem && !tight }.add
      (.list marker tight items.reverse)
  | .item _ content :: .list marker tight items :: outer =>
    { o with spine := .list marker tight (content.reverse :: items) :: outer }
  | .item _ content :: outer => { o with spine := outer, content := content ++ o.content }
  | [] => o

/-- Closes containers until `n` are open. -/
def closeTo (n : Nat) : Outline := (List.range (o.spine.length - n)).foldl (fun o _ => o.close) o

/-- Parts the items of the list around an item. -/
def loosenOuter : Outline :=
  match o.spine with
  | inner :: .list marker _ items :: outer =>
    { o with spine := inner :: .list marker false items :: outer }
  | _ => o

/-- **Leaves a list for a block that is no item of it.** A blank line
before the block makes the list around it loose. -/
def finishList : Outline :=
  let o := match o.spine with
    | .list .. :: _ => o.close
    | _ => o
  if o.afterBlank then { o.loosenOuter with afterBlank := false } else o

/-- Opens an item, in the innermost list if its marker continues that one. -/
def openItem (start : ItemStart) : Outline :=
  let fresh (o : Outline) : Outline :=
    let o := o.finishList
    { o with spine := .list start.marker true [] :: o.spine, afterBlank := false }
  let o := match o.spine with
    | .list marker tight items :: outer =>
      if marker.continues start.marker then
        { o with
          spine := .list marker (tight && !o.afterBlank) items :: outer
          afterBlank := false }
      else fresh o
    | _ => fresh o
  { o with spine := .item start.indent [] :: o.spine }

/-- A blank line. It can part items, except inside a quote; behind a bare
marker it ends the item. -/
def blank : Outline :=
  match o.spine with
  | .quote _ :: _ => o
  | .item .. :: _ => { (if o.bareItem then o.close else o) with afterBlank := true }
  | _ => { o with afterBlank := true }

end Outline

/-! ## Lines of a leaf -/

/-- What stands before a cursor in its line. -/
def marginOf (line : Line) (c : Cursor) (place : Place) : List Glyph :=
  (line.text.take (line.text.length - c.rest.length)).map fun ch => ⟨ch, place⟩

/-- The rest of a line of code or markup behind a cursor. -/
def rawLine (line : Line) (c : Cursor) : RawLine := .ofText c.owed (c.rest ++ line.ending)

/-- The text is over where the containers of a line end. -/
def endsText (line : Line) (c : Cursor) : Bool := c.atEnd && line.ending.isEmpty

/-- A line of a paragraph: what stands before its text, the text, and its end. -/
structure TextLine where
  margin : List Glyph
  text : List Char
  ending : List Char

/-- The text line at a cursor behind the containers of a line. -/
def textLine (line : Line) (c : Cursor) : TextLine :=
  let bare := c.skipBlanks
  let margin := marginOf line c .container
  { margin := margin ++ ((marginOf line bare .indentation).drop margin.length)
    text := bare.rest
    ending := line.ending }

/-- The lines of a paragraph as one text, without the end of the last. -/
def joinLines : List TextLine → List Glyph
  | [] => []
  | [last] => last.margin ++ glyphs last.text
  | line :: lines => line.margin ++ glyphs line.text ++ glyphs line.ending ++ joinLines lines

/-- How a paragraph goes on with a line. -/
inductive Continuation where
  | text (line : TextLine)
  | underline (level : Nat)
  | stop

/-- **Whether a line continues the paragraph above it.** A line that does
not continue every container is lazy: it may go on with the text, but
underlines nothing. -/
def continuation (containers : List Container) (line : Line) : Continuation :=
  let (matched, c) := matchContainers containers { rest := line.text }
  let lazy := matched < containers.length
  let (missing, indented) := c.indent 4
  let level? := if lazy then none else underlineLevel? indented.rest
  if missing = 0 then
    if c.skipBlanks.atEnd then .stop else .text (textLine line c)
  else match level? with
    | some level => .underline level
    | none =>
      if interrupts lazy indented.rest || indented.skipBlanks.atEnd then .stop
      else .text (textLine line c)

/-- The further lines of a paragraph, latest first, the level if they end
in an underline, and the lines behind. -/
def paragraphLines (containers : List Container) (taken : List TextLine) :
    List Line → List TextLine × Option Nat × List Line
  | [] => (taken, none, [])
  | line :: lines =>
    match continuation containers line with
    | .text more => paragraphLines containers (more :: taken) lines
    | .underline level => (taken, some level, lines)
    | .stop => (taken, none, line :: lines)

/-! ## Code and markup -/

/-- The lines of a fenced block up to its closing fence or the end of its
container, latest first, and the lines behind. Each loses the
indentation of the opening fence. -/
def fencedLines (containers : List Container) (indent : Nat) (sign : Char) (length : Nat)
    (taken : List RawLine) (lines : List Line) : List RawLine × List Line :=
  match lines with
  | [] => (taken, [])
  | line :: lines =>
    let (matched, c) := matchContainers containers { rest := line.text }
    if matched < containers.length then (taken, line :: lines) else
    let (_, c) := c.indent indent
    let (missing, close) := c.indent (4 - indent)
    if missing != 0 && (endsText line close || closesFence sign length close.rest) then
      (taken, lines)
    else
      have := length_unbroken_le ⟨c.rest, line.ending⟩ lines
      let whole := unbroken ⟨c.rest, line.ending⟩ lines
      let taken := rawLine whole.1 { c with rest := whole.1.text } :: taken
      fencedLines containers indent sign length taken whole.2
termination_by lines.length
decreasing_by all_goals simp_wf; omega

/-- The further lines of indented code, latest first, each with whether
it is blank, and the lines behind. -/
def indentedLines (containers : List Container) (taken : List (Bool × RawLine))
    (lines : List Line) : List (Bool × RawLine) × List Line :=
  match lines with
  | [] => (taken, [])
  | line :: lines =>
    let (matched, c) := matchContainers containers { rest := line.text }
    let (missing, c) := c.indent 4
    if matched < containers.length || (missing != 0 && !c.atEnd) then (taken, line :: lines)
    else if endsText line c then (taken, [])
    else
      have := length_unbroken_le ⟨c.rest, line.ending⟩ lines
      let whole := unbroken ⟨c.rest, line.ending⟩ lines
      let text := rawLine whole.1 { c with rest := whole.1.text }
      indentedLines containers ((isBlankLine c.rest, text) :: taken) whole.2
termination_by lines.length
decreasing_by all_goals simp_wf; omega

/-- The further lines of markup that ends with a certain text, or before
a blank line if there is none such, latest first, and the lines behind.
`last` is the line before them. -/
def markupLines (containers : List Container) (marker? : Option (List Char)) (last : RawLine)
    (taken : List RawLine) (lines : List Line) : List RawLine × List Line :=
  match lines with
  | [] => (last :: taken, [])
  | line :: lines =>
    let (matched, c) := matchContainers containers { rest := line.text }
    let ended := match marker? with
      | some marker => (after? marker (glyphs last.toList)).isSome
      | none => isBlankLine c.rest
    if matched < containers.length || ended then (last :: taken, line :: lines)
    else if endsText line c then (last :: taken, [])
    else
      have := length_unbroken_le ⟨c.rest, line.ending⟩ lines
      let whole := unbroken ⟨c.rest, line.ending⟩ lines
      let text := rawLine whole.1 { c with rest := whole.1.text }
      markupLines containers marker? text (last :: taken) whole.2
termination_by lines.length
decreasing_by all_goals simp_wf; omega

/-- The text of a heading from its line: without the blanks around it and
without closing signs, and whether there were any. -/
def headingText (cs : List Char) : List Char × Bool :=
  let text := cs.dropWhile Text.isInlineBlank
  let trimmed := (text.reverse.dropWhile (· == ' ')).reverse
  let reversed := trimmed.reverse.dropWhile (· == '#')
  if reversed.length = trimmed.length then (trimmed, false)
  else match reversed with
    | [] => ([], true)
    | ' ' :: _ => ((reversed.dropWhile (· == ' ')).reverse, true)
    | _ => (trimmed, false)

/-! ## One block -/

/-- How many lines end within a text. -/
def lineEnds : List Glyph → Nat
  | [] => 0
  | [g] => if g.isNewline then 1 else 0
  | g :: h :: rest =>
    (if g.isNewline && !(g.char == '\r' && h.char == '\n') then 1 else 0) + lineEnds (h :: rest)

/-- **A leaf that begins at a cursor**, `margin` behind the containers of
its line, and the lines behind it. -/
def leaf (o : Outline) (line : Line) (margin : Cursor) (lines : List Line) : Outline × List Line :=
  let containers := o.containers
  let (missing, c) := margin.indent 4
  let (whole, behind) := unbroken ⟨c.rest, line.ending⟩ lines
  if missing = 0 then
    let first := (false, rawLine whole { c with rest := whole.text })
    let (taken, lines) := indentedLines containers [first] behind
    let kept := taken.dropWhile Prod.fst
    let literal := (kept.reverse.map (RawLine.toList ∘ Prod.snd)).flatten
    ({ o.add (.indentedCode literal) with afterBlank := kept.length < taken.length }, lines)
  else
  let indent := 4 - missing
  let markup? : Option (Option (List Char)) := match c.rest with
    | '<' :: rest =>
      match endMarker? rest with
      | some marker => some (some marker)
      | none => if beginsBlockTag rest || isLoneTag rest then some none else none
    | _ => none
  if let some marker? := markup? then
    let first := rawLine whole { c with rest := whole.text, owed := max margin.owed indent }
    let (taken, lines) := markupLines containers marker? first [] behind
    (o.add (.html taken.reverse), lines)
  else if isRule c.rest then (o.add .rule, lines)
  else if let some level := headingLevel? c.rest then
    let (text, closed) := headingText (c.rest.drop level)
    (o.add (.heading level (glyphs text) closed), lines)
  else if let some (sign, length) := fence? whole.text then
    let info := (whole.text.drop length).dropWhile Text.isInlineBlank
    let info := (info.reverse.dropWhile Text.isAsciiBlank).reverse
    let (taken, lines) := fencedLines containers indent sign length [] behind
    let fence : Fence := { info := String.ofList (unescape info), char := sign, length }
    (o.add (.fencedCode fence (taken.reverse.map RawLine.toList).flatten), lines)
  else
  let (taken, level?, rest) := paragraphLines containers [textLine line margin] lines
  let content := joinLines taken.reverse
  if let some d := definition? (skipMargin content) then
    let used := lineEnds (before content d.rest)
    ({ o with definitions := o.definitions.define d.label d.target }, lines.drop used)
  else match level? with
    | some level => (o.add (.heading level content false), rest)
    | none => (o.add (.paragraph content), rest)

/-- Opens the quotes and items that begin in the rest of a line. The item
behind a bare marker is open when the line is over. -/
def openContainers : Nat → Outline → Cursor → Outline × Cursor
  | 0, o, c => (o, c)
  | fuel + 1, o, c =>
    let (missing, indented) := c.indent 4
    if missing = 0 then (o, c) else
    match itemStart? (4 - missing) indented with
    | some start =>
      let o := o.openItem start
      if isBlankLine start.cursor.rest then ({ o with bareItem := true }, start.cursor)
      else openContainers fuel o start.cursor
    | none =>
      match indented.rest with
      | '>' :: _ =>
        let o := o.finishList
        let inside := ((indented.advance 1).indent 1).2
        openContainers fuel { o with spine := .quote [] :: o.spine } inside
      | _ => (o, c)

/-- **One round**: a line, with the further lines of the leaf in it. -/
def round (o : Outline) (line : Line) (lines : List Line) : Outline × List Line :=
  let (matched, c) := matchContainers o.containers { rest := line.text }
  let o := o.closeTo matched
  let wasBare := o.bareItem
  let (o, c) := openContainers (line.text.length + 1) { o with bareItem := false } c
  if o.bareItem then (o, lines)
  else if isBlankLine c.rest then
    ({ { o with bareItem := wasBare }.blank with bareItem := false }, lines)
  else leaf o.finishList line c lines

/-- Reads lines round by round. -/
def readLines : Nat → Outline → List Line → Outline
  | 0, o, _ => o
  | _, o, [] => o
  | fuel + 1, o, line :: lines =>
    let (o, lines) := round o line lines
    readLines fuel o lines

/-- **The blocks of a text** and its definitions. -/
def blocks (text : List Char) : List Block × Definitions :=
  let lines := splitLines text
  let o := (readLines lines.length {} lines).closeTo 0
  (o.content.reverse, o.definitions)

end StyledMarkdown.Markup
