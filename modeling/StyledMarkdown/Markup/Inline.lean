import StyledMarkdown.Markup.Emphasis
import StyledMarkdown.Markup.Reference
/-!
# Inline content

The text of a paragraph or a heading, read from left to right. Code, raw
markup and automatic links bind most tightly and are settled where they
begin; a closing bracket settles a link; emphasis is paired up last,
inside each link and then around them.
-/

namespace StyledMarkdown.Markup

/-! ## Automatic links -/

/-- A scheme of two to thirty-two characters before a colon, and what follows the colon. -/
def autolinkScheme? (gs : List Glyph) : Option (List Glyph) :=
  match gs with
  | [] => none
  | ⟨c, _⟩ :: _ =>
    let scheme := (gs.take 33).takeWhile fun g =>
      g.char.isAlphanum || g.char == '.' || g.char == '-' || g.char == '+'
    match gs.drop scheme.length with
    | ⟨':', _⟩ :: rest =>
      if c.isAlpha && 2 ≤ scheme.length && scheme.length ≤ 32 then some rest else none
    | _ => none

/-- An absolute address up to its closing bracket. -/
def autolinkAddress? (gs : List Glyph) : Option (List Char × List Glyph) := do
  let rest ← autolinkScheme? gs
  match rest.dropWhile fun g => 0x20 < g.char.toNat && g.char != '<' && g.char != '>' with
  | ⟨'>', p⟩ :: rest => return (chars (before gs (⟨'>', p⟩ :: rest)), rest)
  | _ => none

def isMailboxChar (c : Char) : Bool :=
  c.isAlphanum || ".!#$%&'*+/=?^_\x60\x7b|\x7d~-".toList.contains c

/-- The labels of a host, each of at most sixty-three characters and with
no hyphen at either end, up to the closing bracket. -/
def hostLabels? : Nat → List Glyph → Option (List Glyph)
  | 0, _ => none
  | fuel + 1, gs =>
    let label := gs.takeWhile fun g => g.char.isAlphanum || g.char == '-'
    let hyphen (g : Option Glyph) := (g.map fun g => g.char == '-').getD true
    if hyphen label.head? || hyphen label.getLast? || 63 < label.length then none
    else match gs.drop label.length with
      | ⟨'.', _⟩ :: rest => hostLabels? fuel rest
      | ⟨'>', p⟩ :: rest => some (⟨'>', p⟩ :: rest)
      | _ => none

/-- A mail address up to its closing bracket. -/
def autolinkMailbox? (gs : List Glyph) : Option (List Char × List Glyph) :=
  match gs.dropWhile fun g => isMailboxChar g.char with
  | ⟨'@', _⟩ :: host =>
    if host.length + 1 = gs.length then none
    else match hostLabels? (host.length + 1) host with
      | some (close :: rest) => some (chars (before gs (close :: rest)), rest)
      | _ => none
  | _ => none

/-- **An automatic link**, from behind its opening bracket: its address
and what follows it. -/
def autolink? (gs : List Glyph) : Option (List Char × List Glyph) :=
  (autolinkAddress? gs).orElse fun () => autolinkMailbox? gs

/-! ## Code -/

/-- The text up to a run of exactly `length` backticks, latest first, and
what follows the run. -/
def codeEnd? (length : Nat) (done : List Glyph) :
    Nat → List Glyph → Option (List Glyph × List Glyph)
  | 0, _ => none
  | fuel + 1, gs =>
    match gs with
    | [] => none
    | g :: rest =>
      if g.char = '\x60' then
        let run := gs.takeWhile (·.char == '\x60')
        if run.length = length then some (done, gs.drop run.length)
        else codeEnd? length (run ++ done) fuel (gs.drop run.length)
      else codeEnd? length (g :: done) fuel rest

/-- The lines of code joined by spaces, without the markers of containers. -/
def joinCode : List Glyph → List Char
  | [] => []
  | ⟨'\r', _⟩ :: ⟨'\n', p⟩ :: rest => joinCode (⟨'\n', p⟩ :: rest)
  | ⟨c, p⟩ :: rest =>
    if c = '\n' || c = '\r' then ' ' :: joinCode rest
    else if p = .container then joinCode rest
    else c :: joinCode rest

/-- The content of a code span. One space at both ends goes, unless there
is nothing else. -/
def codeContent (gs : List Glyph) : List Char :=
  let text := joinCode gs
  if text.all (· == ' ') then text
  else match text, text.getLast? with
    | ' ' :: inner, some ' ' => inner.dropLast
    | _, _ => text

/-! ## Links -/

/-- The target in parentheses behind a closing bracket, and what follows it. -/
def inlineTarget? (gs : List Glyph) : Option (Target × List Glyph) :=
  match gs with
  | ⟨'(', _⟩ :: gs => do
    let (destination, rest) ← destination? (skipSeparator gs)
    let rest := skipSeparator rest
    let (title, rest) := match title? rest with
      | some (title, rest) => (title, skipSeparator rest)
      | none => ([], rest)
    match rest with
    | ⟨')', _⟩ :: rest => return (mkTarget destination title, rest)
    | _ => none
  | _ => none

/-- The target of a reference: by the label behind the closing bracket or,
without one, by the text between the brackets if that is a label. -/
def referenceTarget? (definitions : Definitions) (inside rest : List Glyph) :
    Option (Target × List Glyph) :=
  let ownLabel? := do
    let (label, after) ← label? inside
    if after.length = rest.length then some label else none
  match rest with
  | ⟨'[', _⟩ :: ⟨']', _⟩ :: after => do
    return (← definitions.find? (← ownLabel?), after)
  | ⟨'[', _⟩ :: behind =>
    match label? behind with
    | some (label, after) => do return (← definitions.find? label, after)
    | none => do return (← definitions.find? (← ownLabel?), rest)
  | _ => do return (← definitions.find? (← ownLabel?), rest)

/-- The nearest opening bracket: the pieces behind it, latest first, the
bracket, and the pieces before it. -/
def lastBracket? (inside : List Piece) :
    List Piece → Option (List Piece × Bool × Bool × List Glyph × List Piece)
  | [] => none
  | .bracket image active text :: before => some (inside.reverse, image, active, text, before)
  | piece :: before => lastBracket? (piece :: inside) before

/-- Inside a link there is no other link: brackets before it stay text. -/
def deactivate : List Piece → List Piece
  | [] => []
  | .bracket false _ text :: rest => .bracket false false text :: deactivate rest
  | piece :: rest => piece :: deactivate rest

/-! ## The scan -/

/-- A scan under way: the pieces so far, latest first, the character before
the next one, and whether the last piece ended amid plain text. -/
structure Scan where
  pieces : List Piece := []
  previous : Option Char := none
  amidText : Bool := false

namespace Scan

variable (s : Scan)

def push (piece : Piece) (previous : Char) : Scan := ⟨piece :: s.pieces, some previous, false⟩

def text (cs : List Char) : Scan :=
  match cs.getLast? with
  | none => s
  | some last => s.push (.done [.text (String.ofList cs)]) last

/-- Past what stands before the text of a line. -/
def overMargin (margin : List Glyph) : Scan :=
  match margin.getLast? with
  | some g => { s with previous := some g.char }
  | none => s

end Scan

/-- A link around some events. -/
def linkEvents (image : Bool) (target : Target) (inside : List Event) : List Event :=
  let tag := if image then Tag.image target.destination target.title
    else Tag.link target.destination target.title
  .start tag :: inside ++ [.stop]

/-- A closing bracket, with what follows it: the scan and the rest after
it. The nearest opening bracket is used up, whether or not there is a
target for it. -/
def closeBracket (definitions : Definitions) (s : Scan) (rest : List Glyph) : Scan × List Glyph :=
  match lastBracket? [] s.pieces with
  | none => (s.text [']'], rest)
  | some (inside, image, active, text, before) =>
    let target? :=
      if !active then none
      else match inlineTarget? rest with
        | some (target, after) => some (target, after, true)
        | none => (referenceTarget? definitions text rest).map fun (target, after) =>
          (target, after, false)
    match target? with
    | some (target, after, amidText) =>
      let piece := Piece.done (linkEvents image target (settle inside))
      let before := if image then before else deactivate before
      ({ ({ s with pieces := before }.push piece ')') with amidText }, after)
    | none =>
      let opened := Piece.done [.text (if image then "![" else "[")]
      ({ s with pieces := inside ++ opened :: before }.text [']'], rest)

/-- Whether a character begins something other than plain text. -/
def isSpecial (c : Char) : Bool :=
  Text.isAsciiBlank c || "\\\x60*_![]<&".toList.contains c

/-- The end of a line behind some blanks: two of them or more make the
break a hard one. -/
def lineBreak (s : Scan) (blanks : Nat) (next : List Glyph) : Scan × List Glyph :=
  let margin := next.takeWhile fun g => g.place != .content
  let event := if 2 ≤ blanks then Event.hardBreak else .softBreak
  ((s.push (.done [event]) '\n').overMargin margin, next.drop margin.length)

/-- **One step of the scan.** The rest is never longer than what follows
the character read. -/
def scanStep (definitions : Definitions) (keepBlanks : Bool) (s : Scan) (g : Glyph)
    (rest : List Glyph) : Scan × List Glyph :=
  let gs := g :: rest
  match g.char with
  | '\\' =>
    match rest with
    | [] => (s.text ['\\'], [])
    | ⟨c, _⟩ :: behind =>
      match lineEnd? rest with
      | some next =>
        let margin := next.takeWhile fun g => g.place != .content
        ((s.push .escapedBreak '\n').overMargin margin, next.drop margin.length)
      | none =>
        if c = '\x60' then
          let run := rest.takeWhile (·.char == '\x60')
          let after := rest.drop run.length
          let code? := do
            guard (1 < run.length)
            codeEnd? (run.length - 1) [] (after.length + 1) after
          match code? with
          | some (code, after) =>
            ((s.text ['\x60']).push
              (.done [.code (String.ofList (codeContent code.reverse))]) '\x60', after)
          | none => (s.text (chars run), after)
        else if Text.isAsciiPunctuation c then (s.text [c], behind)
        else (s.text ['\\'], rest)
  | '\x60' =>
    let run := gs.takeWhile (·.char == '\x60')
    let after := gs.drop run.length
    match codeEnd? run.length [] (after.length + 1) after with
    | some (code, after) =>
      (s.push (.done [.code (String.ofList (codeContent code.reverse))]) '\x60', after)
    | none => (s.text (chars run), after)
  | '*' | '_' =>
    let run := gs.takeWhile (·.char == g.char)
    let after := gs.drop run.length
    let next := after.head?.map Glyph.char
    let opens := canOpen g.char s.previous next
    let closes := canClose g.char s.previous next
    if opens || closes then
      (s.push (.run g.char run.length run.length opens closes) g.char, after)
    else (s.text (chars run), after)
  | '!' =>
    match rest with
    | ⟨'[', _⟩ :: inside => (s.push (.bracket true true inside) '[', inside)
    | _ => (s.text ['!'], rest)
  | '[' => (s.push (.bracket false true rest) '[', rest)
  | ']' => closeBracket definitions s rest
  | '<' =>
    match autolink? rest with
    | some (address, after) =>
      let address := String.ofList address
      let piece := Piece.done [.start (.link address ""), .text address, .stop]
      ({ s.push piece '>' with amidText := true }, after)
    | none =>
      match inlineMarkup? rest with
      | some (markup, after) =>
        ({ s.push (.done [.inlineHtml (String.ofList markup)]) '>' with amidText := true }, after)
      | none => (s.text ['<'], rest)
  | '&' =>
    match Text.reference? (chars gs) with
    | some (text, after) =>
      (s.push (.done [.text (String.ofList text)]) ';', gs.drop (gs.length - after.length))
    | none => (s.text ['&'], rest)
  | c =>
    if Text.isAsciiBlank c then
      let blanks := gs.takeWhile Glyph.isBlank
      let after := gs.drop blanks.length
      match lineEnd? after with
      | some next => lineBreak s blanks.length next
      | none =>
        if after.isEmpty && !keepBlanks then (s, [])
        else (s.text (chars blanks), after)
    else
      let plain := gs.takeWhile fun g => !isSpecial g.char
      (s.text (chars plain), gs.drop plain.length)

/-- Scans what is left of a text. -/
def scan (definitions : Definitions) (keepBlanks : Bool) : Nat → Scan → List Glyph → Scan
  | 0, s, _ => s
  | _, s, [] => s
  | fuel + 1, s, g :: rest =>
    let (s, rest) := scanStep definitions keepBlanks s g rest
    scan definitions keepBlanks fuel s rest

/-- **The events of a paragraph's text.** -/
def inlineEvents (definitions : Definitions) (content : List Glyph) : List Event :=
  let text := skipMargin content
  let start := ({} : Scan).overMargin (before content text)
  settle (scan definitions false (content.length + 1) start text).pieces

/-- **The events of a heading on one line.** Where closing signs were cut
off there is a text before them, if only an empty one; blanks other than
spaces stay at the end. -/
def headingEvents (definitions : Definitions) (content : List Glyph) (closed : Bool) : List Event :=
  let s := scan definitions true (content.length + 1) {} content
  let pieces := if closed && !s.amidText then .done [.text ""] :: s.pieces else s.pieces
  settle pieces

end StyledMarkdown.Markup
