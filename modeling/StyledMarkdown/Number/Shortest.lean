import StyledMarkdown.Number.Binary
/-!
# The shortest decimal of a binary number

A finite number is written with the fewest digits that read back as it:
the coarsest decimal grid with a point in the interval of reals that
round to the number wins, and of its two points beside the number the
nearer one. The ends of the interval belong to it when the mantissa is
even. Everything is compared as naturals, on a grid fine enough to hold
the number and both ends.
-/

namespace StyledMarkdown.Binary

/-- `n * 2 ^ exponent` on the decimal grid of `10 ^ -places`. -/
private def onGrid (n : Nat) (exponent : Int) (places : Nat) : Nat :=
  ((n * Nat.pow 10 places) <<< exponent.toNat) >>> (-exponent).toNat

/-- A point `point * 10 ^ power` beside the number that reads back as it,
if the grid of that power has one. -/
private def hit? (even : Bool) (low value high power : Nat) : Option Nat :=
  let step := Nat.pow 10 power
  let below := value / step
  let inside (n : Nat) :=
    low < n * step && n * step < high || even && (low == n * step || n * step == high)
  match inside below, inside (below + 1) with
  | true, true =>
    some (if value - below * step < (below + 1) * step - value then below else below + 1)
  | true, false => some below
  | false, true => some (below + 1)
  | false, false => none

/-- **The shortest digits and the power of ten they count.** The mantissa
is at least one. -/
def shortest (f : Format) (mantissa : Nat) (exponent : Int) : Nat × Int :=
  let narrow := mantissa == capacity (f.precision - 1) && f.least < exponent
  let quarter := exponent - 2
  let places := (-quarter).toNat
  let low := onGrid (4 * mantissa - if narrow then 1 else 2) quarter places
  let value := onGrid (4 * mantissa) quarter places
  let high := onGrid (4 * mantissa + 2) quarter places
  let width := (Nat.toDigits 10 value).length
  let grids := (List.range width).map fun n => width - 1 - n
  match grids.findSome? fun power =>
      (hit? (mantissa % 2 == 0) low value high power).map fun point => (point, power) with
  | some (point, power) => (point, (power : Int) - places)
  | none => (value, -(places : Int))

/-- Digits in positional notation, without an exponent and without a
point that nothing follows. -/
def positional (digits : Nat) (exponent : Int) : String :=
  let text := Nat.toDigits 10 digits
  if 0 ≤ exponent then
    String.ofList (text ++ List.replicate exponent.toNat '0')
  else
    let fraction := (-exponent).toNat
    let padded := List.replicate (fraction + 1 - text.length) '0' ++ text
    let whole := padded.length - fraction
    String.ofList (padded.take whole ++ '.' :: padded.drop whole)

/-- A number as text. -/
def toText (f : Format) : Binary → String
  | .nan => "NaN"
  | .infinite negative => if negative then "-inf" else "inf"
  | .finite negative mantissa exponent =>
    let magnitude :=
      if mantissa = 0 then "0"
      else
        let (digits, power) := shortest f mantissa exponent
        positional digits power
    if negative then "-" ++ magnitude else magnitude

end StyledMarkdown.Binary
