import StyledMarkdown.Markup.Line
import StyledMarkdown.Markup.Tag
/-!
# How blocks begin

The signs at the start of a line, behind its indentation, that make it a
rule, a heading, a fence, an item or markup, and those that end a
paragraph without a blank line.
-/

namespace StyledMarkdown.Markup

def isBlankLine (cs : List Char) : Bool := cs.all Text.isInlineBlank

/-- How often a line begins with a character. -/
def countLeading (c : Char) (cs : List Char) : Nat := (cs.takeWhile (· == c)).length

/-- Whether a line is a thematic break: three or more of one sign and blanks. -/
def isRule (cs : List Char) : Bool :=
  match cs with
  | [] => false
  | c :: _ =>
    (c == '*' || c == '-' || c == '_') &&
      cs.all (fun d => d == c || d == ' ' || d == '\t') && 3 ≤ cs.count c

/-- The level of a heading that begins here. -/
def headingLevel? (cs : List Char) : Option Nat :=
  let level := countLeading '#' cs
  let ends := match cs.drop level with
    | [] => true
    | c :: _ => Text.isAsciiBlank c
  if 1 ≤ level && level ≤ 6 && ends then some level else none

/-- The level of the heading that a line makes of the paragraph above it. -/
def underlineLevel? (cs : List Char) : Option Nat :=
  match cs with
  | '=' :: _ => if isBlankLine (cs.drop (countLeading '=' cs)) then some 1 else none
  | '-' :: _ => if isBlankLine (cs.drop (countLeading '-' cs)) then some 2 else none
  | _ => none

/-- The sign and the length of a fence that begins here. Behind backticks
no other backtick may follow. -/
def fence? (cs : List Char) : Option (Char × Nat) :=
  match cs with
  | [] => none
  | c :: _ =>
    let length := countLeading c cs
    if (c == '\x60' || c == '~') && 3 ≤ length &&
        !(c == '\x60' && (cs.drop length).contains '\x60') then
      some (c, length)
    else none

/-- Whether a line closes a fence: at least as many signs, then spaces. -/
def closesFence (sign : Char) (length : Nat) (cs : List Char) : Bool :=
  let found := countLeading sign cs
  length ≤ found && (cs.drop found).all (· == ' ')

/-! ## Items -/

/-- What makes items belong to one list. -/
inductive ListMarker where
  | bullet (sign : Char)
  | numbered (start : Nat) (delimiter : Char)
deriving DecidableEq

/-- Whether an item with the second marker continues a list with the first. -/
def ListMarker.continues : ListMarker → ListMarker → Bool
  | bullet a, bullet b => a == b
  | numbered _ a, numbered _ b => a == b
  | _, _ => false

/-- The marker of an item and its width, without regard to what follows. -/
def listMarker? (cs : List Char) : Option (ListMarker × Nat) :=
  match cs with
  | '-' :: _ => some (.bullet '-', 1)
  | '+' :: _ => some (.bullet '+', 1)
  | '*' :: _ => some (.bullet '*', 1)
  | _ =>
    let digits := (cs.take 9).takeWhile Char.isDigit
    let start := digits.foldl (fun n c => 10 * n + (c.toNat - 48)) 0
    match digits, cs.drop digits.length with
    | _ :: _, '.' :: _ => some (.numbered start '.', digits.length + 1)
    | _ :: _, ')' :: _ => some (.numbered start ')', digits.length + 1)
    | _, _ => none

/-- A new item: its marker, the indentation of its content, and the place
behind the marker. -/
structure ItemStart where
  marker : ListMarker
  indent : Nat
  cursor : Cursor

/-- **The item that begins at a cursor**, `outer` columns into its line.
The content begins behind one to four columns of indentation; five or
more belong to the content except for the first. -/
def itemStart? (outer : Nat) (c : Cursor) : Option ItemStart := do
  let (marker, width) ← listMarker? c.rest
  if isRule c.rest then none else
  let behind := c.advance width
  let (missing, spaced) := behind.indent 1
  if missing = 1 && !behind.atEnd then none else
  let indent := outer + width + 1
  if isBlankLine spaced.rest then return ⟨marker, indent, spaced⟩
  let (missing, inner) := spaced.indent 4
  if missing = 0 then return ⟨marker, indent, spaced⟩
  return ⟨marker, indent + (4 - missing), inner⟩

/-- Whether an item interrupts a paragraph: it has text and is bulleted or
the first of its list. A lazy line is ended by any item. -/
def itemInterrupts (lazy : Bool) (cs : List Char) : Bool :=
  match listMarker? cs with
  | none => false
  | some (marker, width) =>
    let rest := cs.drop width
    let separated := match rest with
      | [] => true
      | c :: _ => c == ' ' || c == '\t'
    let first := match marker with
      | .bullet _ => true
      | .numbered start _ => start == 1
    separated && (lazy || (first && !isBlankLine rest))

/-- Whether a line, behind its indentation, ends the paragraph above it. -/
def interrupts (lazy : Bool) (cs : List Char) : Bool :=
  cs.isEmpty || isRule cs || (headingLevel? cs).isSome || (fence? cs).isSome ||
    itemInterrupts lazy cs ||
    match cs with
    | '>' :: _ => true
    | '<' :: rest => (endMarker? rest).isSome || beginsBlockTag rest
    | _ => false

end StyledMarkdown.Markup
