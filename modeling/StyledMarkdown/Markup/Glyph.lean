import StyledMarkdown.Text.Blank
/-!
# Glyphs

The text of a paragraph, with the markers and the indentation that stand
before its lines left in place. Most constructs read over them, raw
markup quotes them, and what decides about emphasis looks at them, so
each character says where it stands.
-/

namespace StyledMarkdown.Markup

/-- Where a character of a paragraph stands. -/
inductive Place where
  | content
  /-- Among the blanks before the text of a line. -/
  | indentation
  /-- Among the markers of the containers around the paragraph. -/
  | container
deriving DecidableEq

structure Glyph where
  char : Char
  place : Place

def Glyph.isNewline (g : Glyph) : Bool := g.char == '\n' || g.char == '\r'

/-- A blank within a line. -/
def Glyph.isBlank (g : Glyph) : Bool := Text.isInlineBlank g.char

/-- Plain text as glyphs. -/
def glyphs (cs : List Char) : List Glyph := cs.map fun c => ⟨c, .content⟩

def chars (gs : List Glyph) : List Char := gs.map Glyph.char

/-- Past what stands before the text of a line. -/
def skipMargin (gs : List Glyph) : List Glyph := gs.dropWhile fun g => g.place != .content

/-- Past the markers of the containers at the start of a line. -/
def skipContainers (gs : List Glyph) : List Glyph := gs.dropWhile fun g => g.place == .container

/-- Past the end of a line, if one is here. -/
def lineEnd? : List Glyph → Option (List Glyph)
  | ⟨'\r', _⟩ :: ⟨'\n', _⟩ :: rest => some rest
  | ⟨'\r', _⟩ :: rest => some rest
  | ⟨'\n', _⟩ :: rest => some rest
  | _ => none

def skipBlanks (gs : List Glyph) : List Glyph := gs.dropWhile Glyph.isBlank

/-- Past blanks with at most one line end among them. -/
def skipSeparator (gs : List Glyph) : List Glyph :=
  let gs := skipBlanks gs
  match lineEnd? gs with
  | some next => skipBlanks (skipContainers next)
  | none => gs

/-- The glyphs between a place and a later one. -/
def before (gs later : List Glyph) : List Glyph := gs.take (gs.length - later.length)

end StyledMarkdown.Markup
