import Std.Data.HashMap
import StyledMarkdown.Markup.Tag
import StyledMarkdown.Text.CaseFold
import StyledMarkdown.Text.Entity
/-!
# Link targets

Destinations, titles and labels, and the definitions that give a label
its target. Of several definitions for a label the first one counts.
-/

namespace StyledMarkdown.Markup

/-- Resolves escapes and character references. -/
def unescape (cs : List Char) : List Char := go (cs.length + 1) cs []
where
  go : Nat → List Char → List Char → List Char
    | 0, _, done => done.reverse
    | _, [], done => done.reverse
    | fuel + 1, '\\' :: c :: rest, done =>
      if Text.isAsciiPunctuation c then go fuel rest (c :: done)
      else go fuel (c :: rest) ('\\' :: done)
    | fuel + 1, '\r' :: rest, done => go fuel rest done
    | fuel + 1, c :: rest, done =>
      match Text.reference? (c :: rest) with
      | some (text, rest) => go fuel rest (text.reverse ++ done)
      | none => go fuel rest (c :: done)

/-! ## Destinations -/

/-- How deep parentheses may nest in a destination once one is open. -/
def maxParentheses : Nat := 5

/-- A destination in angle brackets, from behind the first. -/
def bracketed? (done : List Char) : List Glyph → Option (List Char × List Glyph)
  | [] => none
  | ⟨'>', _⟩ :: rest => some (done.reverse, rest)
  | ⟨'<', _⟩ :: _ | ⟨'\n', _⟩ :: _ | ⟨'\r', _⟩ :: _ => none
  | ⟨'\\', _⟩ :: ⟨c, p⟩ :: rest =>
    if Text.isAsciiPunctuation c then bracketed? (c :: '\\' :: done) rest
    else bracketed? ('\\' :: done) (⟨c, p⟩ :: rest)
  | ⟨c, _⟩ :: rest => bracketed? (c :: done) rest

/-- A destination without brackets: up to a control or a blank, or up to
a parenthesis that closes none of its own. -/
def bare? (nesting : Nat) (done : List Char) : List Glyph → Option (List Char × List Glyph)
  | [] => if nesting = 0 then some (done.reverse, []) else none
  | ⟨'\\', _⟩ :: ⟨c, q⟩ :: rest =>
    if Text.isAsciiPunctuation c then bare? nesting (c :: '\\' :: done) rest
    else bare? nesting ('\\' :: done) (⟨c, q⟩ :: rest)
  | ⟨'(', _⟩ :: rest =>
    if maxParentheses < nesting then none else bare? (nesting + 1) ('(' :: done) rest
  | ⟨')', p⟩ :: rest =>
    match nesting with
    | 0 => some (done.reverse, ⟨')', p⟩ :: rest)
    | nesting + 1 => bare? nesting (')' :: done) rest
  | ⟨c, p⟩ :: rest =>
    if c.toNat ≤ 0x20 then
      if nesting = 0 then some (done.reverse, ⟨c, p⟩ :: rest) else none
    else bare? nesting (c :: done) rest

/-- **A destination** as written, and what follows it. -/
def destination? : List Glyph → Option (List Char × List Glyph)
  | ⟨'<', _⟩ :: rest => bracketed? [] rest
  | gs => bare? 0 [] gs

/-! ## Titles -/

/-- The text of a title up to its closing sign, without what stands
before the text of each further line. -/
def titleText? (opening closing : Char) (done : List Char) :
    Nat → List Glyph → Option (List Char × List Glyph)
  | 0, _ => none
  | _, [] => none
  | fuel + 1, ⟨c, p⟩ :: rest =>
    if c = closing then some (done.reverse, rest)
    else if c = opening then none
    else if c = '\\' then
      match rest with
      | ⟨d, _⟩ :: after =>
        if Text.isAsciiPunctuation d then titleText? opening closing (d :: '\\' :: done) fuel after
        else titleText? opening closing ('\\' :: done) fuel rest
      | [] => none
    else
      match lineEnd? (⟨c, p⟩ :: rest) with
      | some next => titleText? opening closing ('\n' :: done) fuel (skipMargin next)
      | none => titleText? opening closing (c :: done) fuel rest

/-- **A title** between quotes of one kind or parentheses, as written,
and what follows it. -/
def title? : List Glyph → Option (List Char × List Glyph)
  | ⟨'"', _⟩ :: rest => titleText? '"' '"' [] (rest.length + 1) rest
  | ⟨'\'', _⟩ :: rest => titleText? '\'' '\'' [] (rest.length + 1) rest
  | ⟨'(', _⟩ :: rest => titleText? '(' ')' [] (rest.length + 1) rest
  | _ => none

/-! ## Labels -/

/-- How much a label may weigh: its blanks, its escapes and the bytes beyond ASCII. -/
def maxLabelWeight : Nat := 1000

/-- The text of a label up to its bracket. A run of blanks with at most
one line end is one space; an opening bracket is no part of a label. -/
def labelText? (weight : Nat) (done : List Char) :
    Nat → List Glyph → Option (List Char × List Glyph)
  | 0, _ => none
  | _, [] => none
  | fuel + 1, ⟨c, p⟩ :: rest =>
    if maxLabelWeight ≤ weight || c = '[' then none
    else if c = ']' then some (done.reverse, rest)
    else if c = '\\' then
      match rest with
      | [] => none
      | ⟨d, _⟩ :: rest => labelText? (weight + 2) (d :: '\\' :: done) fuel rest
    else if Text.isAsciiBlank c then
      let gs := ⟨c, p⟩ :: rest
      let next := skipSeparator gs
      if (lineEnd? next).isSome then none
      else labelText? (weight + (before gs next).length) (' ' :: done) fuel next
    else labelText? (weight + if c.toNat < 0x80 then 0 else c.utf8Size) (c :: done) fuel rest

/-- **A label**, from behind its opening bracket: its text with single
spaces, and what follows it. Blanks alone are no label. -/
def label? (gs : List Glyph) : Option (List Char × List Glyph) := do
  let (text, rest) ← labelText? 0 [] (gs.length + 1) gs
  if text.all (· == ' ') then none else return (text, rest)

/-! ## Definitions -/

/-- What a reference leads to. -/
structure Target where
  destination : String
  title : String

/-- The targets by their folded labels. -/
structure Definitions where
  targets : Std.HashMap String Target := {}

namespace Definitions

/-- Labels that differ in case are the same. -/
def key (label : List Char) : String := String.ofList (Text.fold label)

def find? (d : Definitions) (label : List Char) : Option Target := d.targets[key label]?

/-- Adds a definition unless the label has one. -/
def define (d : Definitions) (label : List Char) (target : Target) : Definitions :=
  ⟨d.targets.insertIfNew (key label) target⟩

end Definitions

/-- A definition found at the start of a paragraph. -/
structure Definition where
  label : List Char
  target : Target
  /-- What follows it in the paragraph, from the end of its last line. -/
  rest : List Glyph

def mkTarget (destination title : List Char) : Target :=
  ⟨String.ofList (unescape destination), String.ofList (unescape title)⟩

/-- Whether nothing but blanks stands up to the end of the line. -/
def lineIsOver (gs : List Glyph) : Bool :=
  let gs := skipBlanks gs
  gs.isEmpty || (lineEnd? gs).isSome

/-- **A definition**: a label, a colon, a destination and perhaps a title,
with at most one line end before each of the last two. A title that the
line goes on behind is none; the definition then stands only if it ends
on the line before. -/
def definition? (gs : List Glyph) : Option Definition :=
  match gs with
  | ⟨'[', _⟩ :: gs => do
    let (label, rest) ← label? gs
    let ⟨':', _⟩ :: rest := rest | none
    let start := skipSeparator rest
    let (destination, rest) ← destination? start
    if rest.length = start.length then none
    let plain : Definition := ⟨label, mkTarget destination [], rest⟩
    if (skipBlanks rest).isEmpty then return plain
    let next := skipSeparator rest
    if next.length = rest.length then none
    let withoutTitle := if lineIsOver rest then some plain else none
    match title? next with
    | some (title, rest) =>
      if lineIsOver rest then return ⟨label, mkTarget destination title, rest⟩ else withoutTitle
    | none => withoutTitle
  | _ => none

end StyledMarkdown.Markup
