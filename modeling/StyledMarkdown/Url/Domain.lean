import StyledMarkdown.Text.Blank
import StyledMarkdown.Text.CaseFold
import StyledMarkdown.Text.Hidden
import StyledMarkdown.Text.Pieces
import StyledMarkdown.Url.Punycode
/-!
# Domain names

A name is looked up in ASCII and in lower case. Characters are folded to
the form they are compared in, some are left out, and a label that still
holds characters beyond ASCII is written in Punycode behind a mark.
-/

namespace StyledMarkdown.Url

/-- Characters that a name is the same without. -/
def isOmitted (c : Char) : Bool :=
  let n := c.toNat
  n == 0xad || n == 0x34f || n == 0x200b || n == 0x2060 || n == 0x2064 || n == 0xfeff ||
    (0x180b ≤ n && n ≤ 0x180d) || n == 0x180f || (0xfe00 ≤ n && n ≤ 0xfe0f) ||
    (0xe0100 ≤ n && n ≤ 0xe01ef)

/-- The form of a character in a name. Two small letters that folding
would replace stay, the wide forms are those of ASCII, and there are
more full stops than one. -/
def nameChar (c : Char) : List Char :=
  let n := c.toNat
  if isOmitted c then []
  else if n == 0xdf || n == 0x3c2 then [c]
  else if n == 0x1e9e then [Char.ofNat 0xdf]
  else if n == 0x3002 || n == 0xff61 then ['.']
  else if 0xff01 ≤ n && n ≤ 0xff5e then [(Char.ofNat (n - 0xfee0)).toLower]
  else Text.foldChar c

/-- Characters that no name holds. -/
def isForbiddenInName (c : Char) : Bool :=
  if c.toNat < 0x80 then Text.isShapeless c || " %#/:<>?@[\\]^|".toList.contains c
  else Text.isShapeless c || Text.isBlank c

/-- What stands in front of a label in Punycode. -/
def punycodeMark : List Char := "xn--".toList

def isAscii (cs : List Char) : Bool := cs.all fun c => c.toNat < 0x80

/-- Whether a label stands for itself: no mark begins it, and every
character in it is in the form for names. -/
def isLabel (label : List Char) : Bool :=
  !label.head?.any Text.isMark && !label.any isForbiddenInName && label.flatMap nameChar == label

/-- A label in ASCII. One that is in Punycode already has to stand for a
label that needs it. -/
def labelToAscii? (label : List Char) : Option (List Char) :=
  if label.take 4 == punycodeMark then do
    let decoded ← ofPunycode? (label.drop 4)
    if isLabel decoded && !isAscii decoded then label else none
  else if !isLabel label then none
  else if isAscii label then some label
  else some (punycodeMark ++ punycode label)

/-- **A name as it is looked up.** -/
def domainToAscii? (name : List Char) : Option (List Char) := do
  let labels := Text.pieces '.' (name.flatMap nameChar)
  return Text.joinPieces '.' (← labels.mapM labelToAscii?)

end StyledMarkdown.Url
