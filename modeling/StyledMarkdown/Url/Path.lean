import StyledMarkdown.Text.Pieces
import StyledMarkdown.Url.Percent
/-!
# Paths

A path is a run of segments behind slashes. A segment of one dot is left
out, and one of two dots takes the segment before it along, unless that
one is the letter of a drive.
-/

namespace StyledMarkdown.Url

/-- What a scheme says about the rest of a URL. -/
inductive SchemeKind where
  /-- A scheme of the web, with the number of the service that it implies. -/
  | special (service : Nat)
  | file
  | other
deriving DecidableEq

/-- Whether a backslash is a slash. -/
def SchemeKind.isSpecial : SchemeKind → Bool
  | other => false
  | _ => true

def SchemeKind.isSlash (kind : SchemeKind) (c : Char) : Bool :=
  c == '/' || (kind.isSpecial && c == '\\')

/-- Whether a segment is the letter of a drive. -/
def isDriveLetter : List Char → Bool
  | [letter, mark] => letter.isAlpha && (mark == ':' || mark == '|')
  | _ => false

/-- A segment with its encoded dots in plain. -/
def plainDots : List Char → List Char
  | '%' :: '2' :: 'e' :: rest | '%' :: '2' :: 'E' :: rest => '.' :: plainDots rest
  | c :: rest => c :: plainDots rest
  | [] => []

/-- The segments that a slash follows, latest first, and whether the path
begins with the letter of a drive. -/
structure Segments where
  closed : List (List Char)
  drive : Bool := false

namespace Segments

/-- Goes back to the segment before. -/
def pop (s : Segments) : Segments :=
  match s.closed with
  | last :: first :: rest =>
    if isDriveLetter last then s else { s with closed := first :: rest }
  | _ => s

/-- The segment that a path ends with, or that goes before a slash, none
if it is only dots. A drive of a file has a colon behind its letter. -/
def settle (kind : SchemeKind) (s : Segments) (segment : List Char) :
    Segments × Option (List Char) :=
  match plainDots segment with
  | ['.'] => (s, none)
  | ['.', '.'] => (s.pop, none)
  | _ =>
    if kind = .file && s.closed = [[]] && isDriveLetter segment then
      ({ s with drive := true }, some (segment.take 1 ++ [':']))
    else (s, some segment)

end Segments

/-- Reads a path from within a segment, which has its latest character first. -/
def readPath (kind : SchemeKind) (s : Segments) (segment : List Char) :
    List Char → Segments × List Char
  | [] =>
    let (s, last) := s.settle kind segment.reverse
    (s, last.getD [])
  | c :: rest =>
    if kind.isSlash c then
      let (s, done) := s.settle kind segment.reverse
      let s := match done with
        | some done => { s with closed := done :: s.closed }
        | none => s
      readPath kind s [] rest
    else
      let encoded := (encode escapesInPath [c]).reverse
      let drive := segment.reverse
      if kind = .file && s.closed = [[]] && isDriveLetter drive && drive.getLast? == some ':' then
        readPath kind { s with closed := drive :: s.closed } encoded rest
      else readPath kind s (encoded ++ segment) rest

/-- **The path behind a slash**, and whether it begins with the letter of a
drive. The path of a file has one slash in front. -/
def normalPath (kind : SchemeKind) (cs : List Char) : List Char × Bool :=
  let (s, last) := readPath kind { closed := [[]] } [] cs
  let text := Text.joinPieces '/' (s.closed.reverse ++ [last])
  (if kind = .file then '/' :: text.dropWhile (· == '/') else text, s.drive)

end StyledMarkdown.Url
