import StyledMarkdown.Number.Numeral
/-!
# Colors

Four channels of eight bits, the opacity first. A color is written as a
hash sign and eight lower-case hexadecimal digits; it is read with the
opacity or without it, and is opaque without it.
-/

namespace StyledMarkdown

structure Color where
  argb : UInt32
deriving DecidableEq

namespace Color

def black : Color := ⟨0xff000000⟩
def gray : Color := ⟨0xff888888⟩
def blue : Color := ⟨0xff0000ff⟩

/-- Hexadecimal digits in either case, behind an optional plus sign. At
least one digit stands. -/
def hexNumeral? (cs : List Char) : Option Nat :=
  let digits := match cs with
    | '+' :: digits => digits
    | digits => digits
  if digits.isEmpty || !digits.all Numeral.isHexDigit then none else some (Numeral.value 16 digits)

/-- **Reads a color**: after the hash sign a numeral of six or of eight
characters. -/
def parse? (s : String) : Option Color :=
  match s.toList with
  | '#' :: numeral =>
    match hexNumeral? numeral, numeral.length with
    | some n, 6 => some ⟨0xff000000 ||| n.toUInt32⟩
    | some n, 8 => some ⟨n.toUInt32⟩
    | _, _ => none
  | _ => none

/-- The written form of a color. -/
def toText (c : Color) : String :=
  let digits := Nat.toDigits 16 c.argb.toNat
  String.ofList ('#' :: (List.replicate (8 - digits.length) '0' ++ digits))

end Color

end StyledMarkdown
