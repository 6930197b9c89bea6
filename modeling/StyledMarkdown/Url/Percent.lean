import StyledMarkdown.Number.Numeral
/-!
# Percent encoding

A character that may not stand for itself in a part of a URL is written
as the bytes of its UTF-8 form, each as a percent sign and two digits.
Every part has a set of its own of such characters, and the sets grow
from the one of the controls.
-/

namespace StyledMarkdown.Url

/-! ## What is encoded -/

/-- Controls, and whatever is beyond ASCII. -/
def isControl (c : Char) : Bool := c.toNat < 0x20 || 0x7e < c.toNat

def escapesInQuery (c : Char) : Bool := isControl c || " \"#<>".toList.contains c

/-- The set of a query under a special scheme. -/
def escapesInSpecialQuery (c : Char) : Bool := escapesInQuery c || c == '\''

def escapesInFragment (c : Char) : Bool := isControl c || " \"<>\x60".toList.contains c

def escapesInPath (c : Char) : Bool := escapesInFragment c || "#?\x7b\x7d".toList.contains c

def escapesInUserinfo (c : Char) : Bool := escapesInPath c || "/:;=@[\\]^|".toList.contains c

/-! ## Encoding and decoding -/

/-- The bytes of a character, each behind a percent sign. -/
def percentEncode (c : Char) : List Char :=
  (String.utf8EncodeChar c).flatMap fun byte =>
    ['%', Numeral.upperHexDigit (byte.toNat / 16), Numeral.upperHexDigit (byte.toNat % 16)]

/-- A text with the characters of a set encoded. -/
def encode (escapes : Char → Bool) (cs : List Char) : List Char :=
  cs.flatMap fun c => if escapes c then percentEncode c else [c]

/-- The bytes of a text in which a percent sign and two digits are a byte. -/
def decodedBytes : List Char → List UInt8
  | [] => []
  | '%' :: a :: b :: rest =>
    if Numeral.isHexDigit a && Numeral.isHexDigit b then
      (Numeral.value 16 [a, b]).toUInt8 :: decodedBytes rest
    else '%'.toNat.toUInt8 :: decodedBytes (a :: b :: rest)
  | c :: rest => String.utf8EncodeChar c ++ decodedBytes rest

/-- The text that an encoded text stands for, if its bytes are one. -/
def decode? (cs : List Char) : Option (List Char) :=
  (String.fromUTF8? ⟨(decodedBytes cs).toArray⟩).map String.toList

end StyledMarkdown.Url
