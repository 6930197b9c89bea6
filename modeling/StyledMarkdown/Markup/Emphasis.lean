import StyledMarkdown.Event
import StyledMarkdown.Markup.Glyph
import StyledMarkdown.Text.Punctuation
/-!
# Emphasis

Runs of asterisks and underscores pair up once everything that binds more
tightly is in place. A run that can close takes the nearest run of its
sign that can open, as many signs at once as both have, two by two for
strong emphasis from the inside out.
-/

namespace StyledMarkdown.Markup

/-- A part of a text whose emphasis is still open. -/
inductive Piece where
  | done (events : List Event)
  /-- `count` signs are left of a run of `length`. -/
  | run (sign : Char) (count length : Nat) (opens closes : Bool)
  /-- A hard break made by a backslash. -/
  | escapedBreak
  /-- An opening bracket, with the text behind it. A link inside makes it
  inactive, unless it is that of an image. -/
  | bracket (image active : Bool) (inside : List Glyph)

/-! ## What a run can do -/

/-- Whether a run can open emphasis, by the characters beside it. -/
def canOpen (sign : Char) (previous next : Option Char) : Bool :=
  match next with
  | none => false
  | some n =>
    !Text.isBlank n && ((sign == '*' && !Text.isPunctuation n) ||
      match previous with
      | none => true
      | some p => Text.isBlank p || Text.isPunctuation p)

/-- Whether a run can close emphasis, by the characters beside it. -/
def canClose (sign : Char) (previous next : Option Char) : Bool :=
  match previous with
  | none => false
  | some p =>
    !Text.isBlank p &&
      match next with
      | none => true
      | some n => (sign == '*' && !Text.isPunctuation p) || Text.isBlank n || Text.isPunctuation n

/-- Whether two runs may pair up. When one of them can do both, the sum of
their lengths must not be a multiple of three, unless both lengths are. -/
def compatible (length length' : Nat) (both both' : Bool) : Bool :=
  (!both && !both') || (length + length') % 3 != 0 || length % 3 == 0

/-! ## Pairing -/

/-- Signs left over as text. -/
def literalRun (sign : Char) (count : Nat) : List Event :=
  if count = 0 then [] else [.text (String.ofList (List.replicate count sign))]

/-- What a piece comes to when nothing more pairs up. -/
def Piece.events : Piece → List Event
  | done events => events
  | run sign count _ _ _ => literalRun sign count
  | escapedBreak => [.hardBreak]
  | bracket image _ _ => [.text (if image then "![" else "[")]

/-- An opener, with the pieces between it and the end, and those before it. -/
structure Opener where
  count : Nat
  length : Nat
  closes : Bool
  inside : List Piece
  outside : List Piece

/-- The nearest run that a closing run pairs up with, among pieces latest first. -/
def opener? (sign : Char) (length : Nat) (both : Bool) (inside : List Piece) :
    List Piece → Option Opener
  | [] => none
  | piece :: rest =>
    match piece with
    | .run sign' count length' true closes' =>
      if sign = sign' && compatible length length' both closes' then
        some ⟨count, length', closes', inside, rest⟩
      else opener? sign length both (piece :: inside) rest
    | _ => opener? sign length both (piece :: inside) rest

/-- `count` signs around some events, in pairs from the inside out. -/
def emphasize (events : List Event) : Nat → List Event
  | 0 => events
  | 1 => .start .emphasis :: events ++ [.stop]
  | count + 2 => emphasize (.start .strong :: events ++ [.stop]) count

/-- Pairs `count` signs of a closing run, and leaves what is left of it as
an opener or as text. -/
def closeRun (sign : Char) (length : Nat) (opens closes : Bool) :
    Nat → Nat → List Piece → List Piece
  | 0, count, stack => .run sign count length opens closes :: stack
  | fuel + 1, count, stack =>
    if count = 0 then stack else
    match if closes then opener? sign length (opens && closes) [] stack else none with
    | some o =>
      let paired := min count o.count
      let events := emphasize (o.inside.flatMap Piece.events) paired
      let outside :=
        if paired < o.count then .run sign (o.count - paired) o.length true o.closes :: o.outside
        else o.outside
      closeRun sign length opens closes fuel (count - paired) (.done events :: outside)
    | none =>
      if opens then .run sign count length opens closes :: stack
      else .done (literalRun sign count) :: stack

/-- Works through pieces in order; the stack holds those behind, latest first. -/
def pairRuns (stack : List Piece) : List Piece → List Piece
  | [] => stack
  | .run sign count length opens closes :: rest =>
    pairRuns (closeRun sign length opens closes (count + 1) count stack) rest
  | piece :: rest => pairRuns (piece :: stack) rest

def Piece.isRun : Piece → Bool
  | run .. => true
  | _ => false

/-- Behind a run, an escaped break with nothing after it is a backslash. -/
def settleLastBreak (pieces : List Piece) : List Piece :=
  match pieces with
  | .escapedBreak :: before =>
    if before.any Piece.isRun then .done [.text "\\"] :: before else pieces
  | _ => pieces

/-- **The events of pieces**, which come latest first. -/
def settle (pieces : List Piece) : List Event :=
  (pairRuns [] (settleLastBreak pieces).reverse).reverse.flatMap Piece.events

end StyledMarkdown.Markup
