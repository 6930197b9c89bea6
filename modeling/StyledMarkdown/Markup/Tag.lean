import StyledMarkdown.Markup.Glyph
import StyledMarkdown.Text.Punctuation
/-!
# Raw markup

Tags, comments, instructions, declarations and verbatim sections, as they
are recognised inside a paragraph and at the start of a block. Nothing is
interpreted: a construct is found, and what it covers is kept as written.
-/

namespace StyledMarkdown.Markup

/-- A text without `marker` before it, letters of either case. -/
def dropPrefixAnyCase? : List Char → List Char → Option (List Char)
  | [], cs => some cs
  | m :: ms, c :: cs => if c.toLower = m then dropPrefixAnyCase? ms cs else none
  | _ :: _, [] => none

/-- What follows the first place where `marker` stands. -/
def after? (marker : List Char) : List Glyph → Option (List Glyph)
  | [] => if marker.isEmpty then some [] else none
  | g :: gs =>
    if marker.isPrefixOf (chars ((g :: gs).take marker.length)) then
      some ((g :: gs).drop marker.length)
    else after? marker gs

def startsWith (marker : String) (gs : List Glyph) : Bool :=
  chars (gs.take marker.length) == marker.toList

/-! ## Tags -/

def isTagNameChar (c : Char) : Bool := c.isAlphanum || c == '-'

def isAttributeNameChar (c : Char) : Bool :=
  c.isAlphanum || c == '_' || c == '.' || c == ':' || c == '-'

/-- Whether a character may stand in a value without quotes. -/
def isBareValueChar (c : Char) : Bool := !"'\" =><\x60\n\r".toList.contains c

/-- Past blanks and, where lines may end, line ends with the markers
behind them. There is no answer where lines may not end and one does, or
where the text is over. -/
def skipTagBlanks? (multiline : Bool) : Nat → List Glyph → Option (List Glyph)
  | 0, _ => none
  | fuel + 1, gs =>
    let gs := skipBlanks gs
    match gs with
    | [] => none
    | _ =>
      match lineEnd? gs with
      | none => some gs
      | some next => if multiline then skipTagBlanks? multiline fuel (skipContainers next) else none

/-- Past a value in quotes. -/
def quotedValue? (multiline : Bool) (quote : Char) : List Glyph → Option (List Glyph)
  | [] => none
  | g :: gs =>
    if g.char = quote then some gs
    else if g.isNewline && !multiline then none
    else quotedValue? multiline quote gs

/-- Past the value of an attribute. -/
def attributeValue? (multiline : Bool) : List Glyph → Option (List Glyph)
  | [] => none
  | ⟨c, _⟩ :: gs =>
    if c = '"' || c = '\'' then quotedValue? multiline c gs
    else if isBareValueChar c then some (gs.dropWhile fun g => isBareValueChar g.char)
    else none

/-- Past an attribute and, if it has one, its value. -/
def attribute? (multiline : Bool) : List Glyph → Option (List Glyph)
  | [] => none
  | ⟨c, _⟩ :: gs =>
    if c.isAlpha || c == '_' || c == ':' then
      let name := gs.dropWhile fun g => isAttributeNameChar g.char
      match skipTagBlanks? multiline (name.length + 1) name with
      | none => none
      | some (⟨'=', _⟩ :: value) => do
        attributeValue? multiline (← skipTagBlanks? multiline (value.length + 1) value)
      | some _ => some name
    else none

/-- Past the end of an opening tag, from behind its name. -/
def openingTagEnd? (multiline : Bool) : Nat → List Glyph → Option (List Glyph)
  | 0, _ => none
  | fuel + 1, gs => do
    let next ← skipTagBlanks? multiline (gs.length + 1) gs
    match next with
    | ⟨'>', _⟩ :: rest => some rest
    | ⟨'/', _⟩ :: ⟨'>', _⟩ :: rest => some rest
    | _ =>
      if next.length = gs.length then none
      else openingTagEnd? multiline fuel (← attribute? multiline next)

/-- **A complete tag**, from behind its angle bracket: what follows it. -/
def tag? (multiline : Bool) (gs : List Glyph) : Option (List Glyph) :=
  let (closing, name) := match gs with
    | ⟨'/', _⟩ :: name => (true, name)
    | name => (false, name)
  match name with
  | [] => none
  | ⟨c, _⟩ :: rest =>
    if !c.isAlpha then none else
    let rest := rest.dropWhile fun g => isTagNameChar g.char
    if closing then
      match skipBlanks rest with
      | ⟨'>', _⟩ :: rest => some rest
      | _ => none
    else openingTagEnd? multiline (rest.length + 1) rest

/-! ## Inside a paragraph -/

/-- A comment, from behind its exclamation mark. -/
def comment? (gs : List Glyph) : Option (List Glyph) :=
  if startsWith "--" gs then
    let body := gs.drop 2
    if startsWith ">" body then some (body.drop 1)
    else if startsWith "->" body then some (body.drop 2)
    else after? "-->".toList body
  else none

/-- **Raw markup in a paragraph**, from behind its angle bracket: its text
with the bracket, and what follows. A tag over several lines loses the
markers in between. -/
def inlineMarkup? (gs : List Glyph) : Option (List Char × List Glyph) :=
  match gs with
  | ⟨'!', _⟩ :: body =>
    let rest? :=
      if startsWith "-" body then comment? body
      else if startsWith "[CDATA[" body then after? "]]>".toList (body.drop 7)
      else match body with
        | ⟨c, _⟩ :: _ => if c.isAlpha then after? ['>'] body else none
        | [] => none
    rest?.map fun rest => ('<' :: chars (before gs rest), rest)
  | ⟨'?', _⟩ :: body =>
    (after? "?>".toList body).map fun rest => ('<' :: chars (before gs rest), rest)
  | _ =>
    (tag? true gs).map fun rest =>
      ('<' :: chars ((before gs rest).filter fun g => g.place != .container), rest)

/-! ## At the start of a block -/

/-- Blocks that begin with one of these run up to the line with its closing tag. -/
def rawTags : List String := ["pre", "style", "script", "textarea"]

/-- The names of the tags that begin a block wherever they stand. -/
def blockTags : List String :=
  ["address", "article", "aside", "base", "basefont", "blockquote", "body", "caption", "center",
    "col", "colgroup", "dd", "details", "dialog", "dir", "div", "dl", "dt", "fieldset",
    "figcaption", "figure", "footer", "form", "frame", "frameset", "h1", "h2", "h3", "h4", "h5",
    "h6", "head", "header", "hr", "html", "iframe", "legend", "li", "link", "main", "menu",
    "menuitem", "nav", "noframes", "ol", "optgroup", "option", "p", "param", "search", "section",
    "summary", "table", "tbody", "td", "tfoot", "th", "thead", "title", "tr", "track", "ul"]

/-- For a block that runs up to a certain text, that text; from behind the
angle bracket of its first line. -/
def endMarker? (cs : List Char) : Option (List Char) :=
  let raw := rawTags.findSome? fun name =>
    match dropPrefixAnyCase? name.toList cs with
    | some [] => some ("</" ++ name ++ ">").toList
    | some (c :: _) =>
      if Text.isAsciiBlank c || c == '>' then some ("</" ++ name ++ ">").toList else none
    | none => none
  raw.orElse fun () => match cs with
    | '!' :: '-' :: '-' :: _ => some "-->".toList
    | '?' :: _ => some "?>".toList
    | '!' :: '[' :: 'C' :: 'D' :: 'A' :: 'T' :: 'A' :: '[' :: _ => some "]]>".toList
    | '!' :: c :: _ => if c.isAlpha then some ['>'] else none
    | _ => none

/-- Whether a tag among `blockTags` begins here, from behind its angle bracket. -/
def beginsBlockTag (cs : List Char) : Bool :=
  let cs := match cs with
    | '/' :: cs => cs
    | cs => cs
  let name := cs.takeWhile Char.isAlphanum
  blockTags.contains (String.ofList (name.map Char.toLower)) &&
    match cs.drop name.length with
    | [] => true
    | ' ' :: _ | '\t' :: _ | '>' :: _ | '/' :: '>' :: _ => true
    | _ => false

/-- Whether a line is one complete tag and blanks, from behind its angle bracket. -/
def isLoneTag (cs : List Char) : Bool :=
  match tag? false (glyphs cs) with
  | some rest => (skipBlanks rest).isEmpty
  | none => false

end StyledMarkdown.Markup
